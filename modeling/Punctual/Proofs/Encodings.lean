import Mathlib.Data.List.Nodup
import Punctual.Handle
import Punctual.Proofs.InstantTexts

/-!
Values that survive being written. A reader and a writer of the same kind of value are told to fit
together only for what the reader gives, since a writer may be given more: an infinite number, or an
instant in a leap second that no text spells. Sorting by name changes nothing the second time.
-/
namespace Punctual

/-! ## Values by name -/

namespace Named

variable {α : Type} {name : String} {value : α} {entries sorted : List (String × α)}

/-- Names come in ascending order, each once. -/
def Sorted (entries : List (String × α)) : Prop := entries.Pairwise fun a b => a.1 < b.1

theorem mem_insert {entry : String × α} (member : entry ∈ insert name value entries) :
    entry = (name, value) ∨ entry ∈ entries := by
  fun_induction insert name value entries with
  | case1 => exact .inl (List.mem_singleton.mp member)
  | case2 old rest =>
    rcases List.mem_cons.mp member with same | kept
    · exact .inl same
    · exact .inr (List.mem_cons_of_mem _ kept)
  | case3 other old rest => exact List.mem_cons.mp member
  | case4 other old rest _ _ ih =>
    rcases List.mem_cons.mp member with same | later
    · exact .inr (same ▸ List.mem_cons_self)
    · exact (ih later).imp_right (List.mem_cons_of_mem _)

theorem insert_sorted (ordered : Sorted entries) : Sorted (insert name value entries) := by
  fun_induction insert name value entries with
  | case1 => exact List.pairwise_singleton ..
  | case2 old rest => exact List.pairwise_cons.mpr (List.pairwise_cons.mp ordered)
  | case3 other old rest _ before =>
    refine List.pairwise_cons.mpr ⟨?_, ordered⟩
    intro entry member
    rcases List.mem_cons.mp member with rfl | later
    · exact before
    · exact String.lt_trans before ((List.pairwise_cons.mp ordered).1 entry later)
  | case4 other old rest different notBefore ih =>
    obtain ⟨first, rest⟩ := List.pairwise_cons.mp ordered
    refine List.pairwise_cons.mpr ⟨?_, ih rest⟩
    intro entry member
    rcases mem_insert member with rfl | later
    · by_contra notAfter
      exact different (String.le_antisymm (String.not_lt.mp notAfter) (String.not_lt.mp notBefore))
    · exact first entry later

/-- A name after all others is put last. -/
theorem insert_last (after : ∀ entry ∈ entries, entry.1 < name) :
    insert name value entries = entries ++ [(name, value)] := by
  induction entries with
  | nil => rfl
  | cons entry rest ih =>
    have before : entry.1 < name := after entry List.mem_cons_self
    have different : name ≠ entry.1 := fun same => String.lt_irrefl _ (same ▸ before)
    have tail := ih fun other member => after other (List.mem_cons_of_mem entry member)
    simp [insert, different, String.lt_asymm before, tail]

theorem foldl_insert_sorted (ordered : Sorted sorted) :
    Sorted (entries.foldl (fun sorted (name, value) => insert name value sorted) sorted) := by
  induction entries generalizing sorted with
  | nil => exact ordered
  | cons entry rest ih => exact ih (insert_sorted ordered)

theorem mem_foldl_insert {entry : String × α}
    (member : entry ∈ entries.foldl (fun sorted (name, value) => insert name value sorted) sorted) :
    entry ∈ sorted ∨ entry ∈ entries := by
  induction entries generalizing sorted with
  | nil => exact .inl member
  | cons first rest ih =>
    rcases ih member with kept | later
    · rcases mem_insert kept with same | kept
      · exact .inr (same ▸ List.mem_cons_self)
      · exact .inl kept
    · exact .inr (List.mem_cons_of_mem first later)

theorem foldl_insert_of_sorted (ordered : Sorted (sorted ++ entries)) :
    entries.foldl (fun sorted (name, value) => insert name value sorted) sorted = sorted ++ entries := by
  induction entries generalizing sorted with
  | nil => simp
  | cons entry rest ih =>
    obtain ⟨name, value⟩ := entry
    have after : ∀ earlier ∈ sorted, earlier.1 < name := fun earlier member =>
      (List.pairwise_append.mp ordered).2.2 earlier member (name, value) List.mem_cons_self
    have shifted : sorted ++ [(name, value)] ++ rest = sorted ++ (name, value) :: rest := by simp
    rw [List.foldl_cons]
    dsimp only
    rw [insert_last after, ih (shifted ▸ ordered), shifted]

theorem ofList_sorted (entries : List (String × α)) : Sorted (ofList entries) :=
  foldl_insert_sorted List.Pairwise.nil

theorem mem_ofList {entry : String × α} (member : entry ∈ ofList entries) : entry ∈ entries :=
  (mem_foldl_insert member).resolve_left List.not_mem_nil

/-- Sorted values stay as they are. -/
theorem ofList_of_sorted (ordered : Sorted entries) : ofList entries = entries :=
  foldl_insert_of_sorted (by simpa using ordered)

end Named

namespace Json

theorem canonicalItems_eq (items : List Json) : canonicalItems items = items.map canonical := by
  induction items with
  | nil => rfl
  | cons item rest ih => rw [canonicalItems, ih, List.map_cons]

theorem canonicalFields_eq (sorted fields : List (String × Json)) : canonicalFields sorted fields =
    (fields.map fun (name, value) => (name, value.canonical)).foldl
      (fun sorted (name, value) => Named.insert name value sorted) sorted := by
  induction fields generalizing sorted with
  | nil => rfl
  | cons field rest ih => rw [canonicalFields, ih, List.map_cons, List.foldl_cons]

theorem canonical_obj (fields : List (String × Json)) : canonical (.obj fields) =
    .obj (Named.ofList (fields.map fun (name, value) => (name, value.canonical))) := by
  rw [canonical, canonicalFields_eq, Named.ofList]

mutual

/-- A canonical value stays as it is. -/
theorem canonical_canonical : ∀ j : Json, j.canonical.canonical = j.canonical
  | .null | .bool _ | .int _ | .real _ | .str _ => rfl
  | .arr items => by
    simp only [canonical, canonicalItems_eq, List.map_map, arr.injEq]
    exact List.map_congr_left (canonical_items items)
  | .obj fields => by
    have values : ∀ entry ∈ Named.ofList (fields.map fun (name, value) => (name, value.canonical)),
        (entry.1, entry.2.canonical) = entry := by
      intro entry member
      obtain ⟨field, written, rfl⟩ := List.mem_map.mp (Named.mem_ofList member)
      exact congrArg (Prod.mk field.1) (canonical_fields fields field written)
    rw [canonical_obj, canonical_obj, List.map_congr_left values, List.map_id',
      Named.ofList_of_sorted (Named.ofList_sorted _)]

theorem canonical_items : ∀ (items : List Json), ∀ item ∈ items,
    item.canonical.canonical = item.canonical
  | [] => List.forall_mem_nil _
  | item :: rest => List.forall_mem_cons.mpr ⟨canonical_canonical item, canonical_items rest⟩

theorem canonical_fields : ∀ (fields : List (String × Json)), ∀ field ∈ fields,
    field.2.canonical.canonical = field.2.canonical
  | [] => List.forall_mem_nil _
  | (_, value) :: rest =>
    List.forall_mem_cons.mpr ⟨canonical_canonical value, canonical_fields rest⟩

end

theorem canonical_ne_null {j : Json} (value : j ≠ .null) : j.canonical ≠ .null := by
  cases j with
  | null => exact absurd rfl value
  | _ => simp [canonical]

/-! ## Identifiers -/

theorem hexValue_hexDigit {n : Nat} (below : n < 16) : hexValue? (hexDigit n) = some n := by
  have all : ∀ n < 16, hexValue? (hexDigit n) = some n := by decide
  exact all n below

theorem hexDigit_ne_hyphen {n : Nat} (below : n < 16) : hexDigit n ≠ '-' := by
  have all : ∀ n < 16, hexDigit n ≠ '-' := by decide
  exact all n below

end Json

namespace Uuid

theorem length_hexDigits (width n : Nat) : (hexDigits width n).length = width := by
  induction width generalizing n with
  | zero => rfl
  | succ width ih => simp [hexDigits, ih]

theorem hexDigits_ne_hyphen (width n : Nat) : ∀ c ∈ hexDigits width n, c ≠ '-' := by
  induction width generalizing n with
  | zero => exact List.forall_mem_nil _
  | succ width ih =>
    intro c member
    rcases List.mem_append.mp member with high | low
    · exact ih (n / 16) c high
    · rw [List.mem_singleton.mp low]
      exact Json.hexDigit_ne_hyphen (Nat.mod_lt n (by decide))

theorem hexNumber_hexDigits {width n : Nat} (below : n < 16 ^ width) :
    Json.hexNumber? (hexDigits width n) = some n := by
  induction width generalizing n with
  | zero => exact congrArg some (by omega)
  | succ width ih =>
    have high : n / 16 < 16 ^ width := Nat.div_lt_of_lt_mul (by rwa [Nat.mul_comm, ← Nat.pow_succ])
    have low := Json.hexValue_hexDigit (Nat.mod_lt n (by decide : 0 < 16))
    have split : 16 * (n / 16) + n % 16 = n := Nat.div_add_mod n 16
    have read := ih high
    unfold Json.hexNumber? at read ⊢
    simp [hexDigits, List.foldlM_append, read, low, split]

theorem ofDigits_hexDigits (u : Uuid) : ofDigits? (hexDigits 32 u.value) = some u := by
  have below : u.value < 16 ^ 32 := u.value_lt
  rw [ofDigits?, if_pos (length_hexDigits 32 u.value), hexNumber_hexDigits below, Option.bind_some]
  exact dif_pos u.value_lt

/-- Without its hyphens, the text is the digits. -/
theorem filter_text (u : Uuid) : u.text.filter (· ≠ '-') = hexDigits 32 u.value := by
  have digits := hexDigits_ne_hyphen 32 u.value
  unfold text
  dsimp only
  generalize hexDigits 32 u.value = written at digits ⊢
  have plain : ∀ part : List Char, part ⊆ written → part.filter (· ≠ '-') = part := by
    intro part within
    refine List.filter_eq_self.mpr fun c member => ?_
    simpa using digits c (within member)
  have group : ∀ n, ((written.drop n).take 4).filter (· ≠ '-') = (written.drop n).take 4 := fun n =>
    plain _ fun _ member => List.mem_of_mem_drop (List.mem_of_mem_take member)
  have skipped : ∀ part : List Char, ('-' :: part).filter (· ≠ '-') = part.filter (· ≠ '-') := fun _ => rfl
  have joined : ∀ n, (written.drop n).take 4 ++ written.drop (n + 4) = written.drop n := by
    intro n
    rw [← List.drop_drop, List.take_append_drop]
  simp only [List.filter_append, skipped, group]
  rw [plain _ (List.take_subset 8 written), plain _ (List.drop_subset 20 written)]
  rw [joined 16, joined 12, joined 8, List.take_append_drop]

/-- The hyphens stand where groups are told by them. -/
theorem ofGroups_text (u : Uuid) : ofGroups? u.text = some u := by
  rw [ofGroups?, if_pos, filter_text, ofDigits_hexDigits]
  simp [text, length_hexDigits]

theorem ofText_text (u : Uuid) : ofText? u.text = some u := by
  have length : u.text.length = 36 := by simp [text, length_hexDigits]
  have groups := u.ofGroups_text
  simp [ofText?, length, groups]

end Uuid

namespace Json

/-! ## Readers and writers -/

section

variable {α β : Type} {read : Json → Option α} {write : α → Json}

/-- What is read is read again from what it is written as, which is not null. -/
structure Restores (read : Json → Option α) (write : α → Json) : Prop where
  again : ∀ {j a}, read j = some a → read (write a) = some a
  present : ∀ {j a}, read j = some a → write a ≠ .null

theorem Restores.copy_eq {j : Json} {a copy : α} (restores : Restores read write) (found : read j = some a)
    (copied : read (write a) = some copy) : copy = a := by
  rw [restores.again found] at copied
  exact (Option.some.inj copied).symm

/-- Reading on from a simpler value that is written as it is read. -/
theorem restores_bind {base? : Json → Option β} {next : β → Option α} {simple : β → Json} (back : α → β)
    (written : ∀ b, base? (simple b) = some b) (present : ∀ b, simple b ≠ .null)
    (kept : ∀ {b a}, next b = some a → next (back a) = some a) :
    Restores (fun j => (base? j).bind next) (fun a => simple (back a)) where
  again := by
    intro j a read
    obtain ⟨b, _, read⟩ := Option.bind_eq_some_iff.mp read
    simpa [written] using kept read
  present _ := present _

theorem string_restores : Restores string? .str where
  again _ := rfl
  present _ := by simp

theorem bool_restores : Restores bool? .bool where
  again _ := rfl
  present _ := by simp

/-- A number that is kept as it is, if it is within its bits, is read again. -/
theorem int_restores {fits? : Int → Option Int} (same : ∀ {n m}, fits? n = some m → m = n) :
    Restores (fun j => j.int?.bind fits?) .int := by
  refine restores_bind id (fun _ => rfl) (by simp) ?_
  intro n m fits
  obtain rfl := same fits
  exact fits

theorem int32_restores : Restores int32? .int := int_restores eq_of_toInt32

theorem int64_restores : Restores int64? .int := int_restores eq_of_toInt64

/-- A number without sign is read again if it is within its bits. -/
theorem nat_restores (most : Nat) : Restores
    (fun j => j.int?.bind fun n => if 0 ≤ n ∧ n ≤ most then some n.toNat else none) (fun n => .int n) := by
  refine restores_bind Nat.cast (fun _ => rfl) (by simp) ?_
  intro n m fits
  split at fits <;> cases fits
  rw [if_pos (by omega)]
  rfl

theorem nat32_restores : Restores nat32? (fun n => .int n) := nat_restores maxNat32

theorem nat64_restores : Restores nat64? (fun n => .int n) := nat_restores maxNat64

theorem real_restores : Restores real? ofReal := by
  have finite : ∀ {j x}, real? j = some x → x.isFinite = true := by
    intro j x read
    unfold real? at read
    split at read
    · exact (Option.filter_eq_some_iff.mp read).2
    · exact (Option.filter_eq_some_iff.mp read).2
    · cases read
  constructor
  · intro j x read
    rw [ofReal, if_pos (finite read)]
    exact Option.filter_eq_some_iff.mpr ⟨rfl, finite read⟩
  · intro j x read
    rw [ofReal, if_pos (finite read)]
    simp

theorem instant_restores : Restores instant? ofInstant := by
  refine restores_bind (fun t : Instant => String.ofList t.text) (fun _ => rfl) (by simp) ?_
  intro s t read
  rw [String.toList_ofList]
  exact Instant.ofText_text (Instant.ofText_writable read)

/-- A word of a fixed set, under which its meaning is found again. -/
theorem word_restores {ofName? : String → Option α} {name : α → String}
    (named : ∀ a, ofName? (name a) = some a) :
    Restores (fun j => j.word?.bind ofName?) (fun a => .str (name a)) :=
  restores_bind name (fun _ => rfl) (by simp) fun _ => named _

theorem handle_restores : Restores Handle.ofJson? Handle.toJson := by
  refine restores_bind (fun h : Handle => String.ofList h.text) (fun _ => rfl) (by simp) ?_
  intro s handle read
  obtain ⟨id, _, rfl⟩ := Option.map_eq_some_iff.mp read
  rw [String.toList_ofList, Handle.text, Uuid.ofText_text, Option.map_some]

/-! ## Records -/

variable {r s : Record} {name : String} {a : α} {a? : Option α}

theorem Restores.required (restores : Restores read write) (found : r.required name read = some a)
    (written : s.lookup name = some (write a)) : s.required name read = some a := by
  obtain ⟨j, _, read⟩ := Option.bind_eq_some_iff.mp found
  rw [Record.required, written]
  exact restores.again read

theorem Restores.withDefault {usual : α} (restores : Restores read write)
    (found : r.withDefault name read usual = some a) (written : s.lookup name = some (write a))
    (standard : read (write usual) = some usual) : s.withDefault name read usual = some a := by
  rw [Record.withDefault, written]
  unfold Record.withDefault at found
  split at found
  · cases found
    exact standard
  · exact restores.again found

theorem Restores.optional (restores : Restores read write) (found : r.optional name read = some a?)
    (written : s.lookup name = some (.ofOption write a?)) : s.optional name read = some a? := by
  rw [Record.optional, written]
  cases a? with
  | none => rfl
  | some a =>
    obtain ⟨j, read⟩ := Record.optional_some found
    have present := restores.present read
    have again := restores.again read
    simp only [ofOption, Option.map_some, Option.getD_some]
    rw [again, Option.map_some]

theorem Restores.nullable (restores : Restores read write) (found : r.nullable name read = some a?)
    (written : s.lookup name = some (.ofOption write a?)) : s.nullable name read = some a? := by
  unfold Record.nullable at found ⊢
  split at found
  · cases found
  · rw [if_neg (by simp [written])]
    exact restores.optional found written

end

variable {fields : List (String × Json)} {names : List String} {tag word : String}

/-- A record is found in its fields, under their names. -/
theorem record_obj (named : fields.map (·.1) = names) (distinct : names.Nodup) :
    record? names (.obj fields) = some ⟨fun name => fields.lookup name, false⟩ := by
  have single : ¬ (names.any fun name => 1 < fields.countP (·.1 == name)) = true := by
    simp only [List.any_eq_true, decide_eq_true_eq, not_exists, not_and, not_lt]
    intro name _
    have once := List.nodup_iff_count_le_one.mp distinct name
    rw [← named, List.count, List.countP_map] at once
    exact once
  exact if_neg single

/-- The word that tells the kind of record is taken off again. -/
theorem tagged_obj (untagged : fields.all (·.1 != tag) = true) :
    tagged? tag (.obj ((tag, .str word) :: fields)) = some (word, .obj fields) := by
  have other : ∀ field ∈ fields, field.1 ≠ tag := by simpa using untagged
  have none_tagged : fields.filter (·.1 == tag) = [] := List.filter_eq_nil_iff.mpr (by simpa using other)
  have all_kept : fields.filter (·.1 != tag) = fields := List.filter_eq_self.mpr (by simpa using other)
  simp [tagged?, none_tagged, all_kept]

end Json

end Punctual
