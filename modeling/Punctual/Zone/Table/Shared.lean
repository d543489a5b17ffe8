import Punctual.Zone.Rule

/-! Saving rules that zones of several regions follow. -/
namespace Punctual.ZoneTable

def egypt : List SavingRule :=
  [⟨1940, 1940, ⟨7, .on 15, .wall, 0⟩, 3600⟩,
   ⟨1940, 1940, ⟨10, .on 1, .wall, 0⟩, 0⟩,
   ⟨1941, 1941, ⟨4, .on 15, .wall, 0⟩, 3600⟩,
   ⟨1941, 1941, ⟨9, .on 16, .wall, 0⟩, 0⟩,
   ⟨1942, 1944, ⟨4, .on 1, .wall, 0⟩, 3600⟩,
   ⟨1942, 1942, ⟨10, .on 27, .wall, 0⟩, 0⟩,
   ⟨1943, 1945, ⟨11, .on 1, .wall, 0⟩, 0⟩,
   ⟨1945, 1945, ⟨4, .on 16, .wall, 0⟩, 3600⟩,
   ⟨1957, 1957, ⟨5, .on 10, .wall, 0⟩, 3600⟩,
   ⟨1957, 1958, ⟨10, .on 1, .wall, 0⟩, 0⟩,
   ⟨1958, 1958, ⟨5, .on 1, .wall, 0⟩, 3600⟩,
   ⟨1959, 1981, ⟨5, .on 1, .wall, 3600⟩, 3600⟩,
   ⟨1959, 1965, ⟨9, .on 30, .wall, 10800⟩, 0⟩,
   ⟨1966, 1994, ⟨10, .on 1, .wall, 10800⟩, 0⟩,
   ⟨1982, 1982, ⟨7, .on 25, .wall, 3600⟩, 3600⟩,
   ⟨1983, 1983, ⟨7, .on 12, .wall, 3600⟩, 3600⟩,
   ⟨1984, 1988, ⟨5, .on 1, .wall, 3600⟩, 3600⟩,
   ⟨1989, 1989, ⟨5, .on 6, .wall, 3600⟩, 3600⟩,
   ⟨1990, 1994, ⟨5, .on 1, .wall, 3600⟩, 3600⟩,
   ⟨1995, 2010, ⟨4, .last .fri, .standard, 0⟩, 3600⟩,
   ⟨1995, 2005, ⟨9, .last .thu, .wall, 86400⟩, 0⟩,
   ⟨2006, 2006, ⟨9, .on 21, .wall, 86400⟩, 0⟩,
   ⟨2007, 2007, ⟨9, .onOrAfter .thu 1, .wall, 86400⟩, 0⟩,
   ⟨2008, 2008, ⟨8, .last .thu, .wall, 86400⟩, 0⟩,
   ⟨2009, 2009, ⟨8, .on 20, .wall, 86400⟩, 0⟩,
   ⟨2010, 2010, ⟨8, .on 10, .wall, 86400⟩, 0⟩,
   ⟨2010, 2010, ⟨9, .on 9, .wall, 86400⟩, 3600⟩,
   ⟨2010, 2010, ⟨9, .last .thu, .wall, 86400⟩, 0⟩,
   ⟨2014, 2014, ⟨5, .on 15, .wall, 86400⟩, 3600⟩,
   ⟨2014, 2014, ⟨6, .on 26, .wall, 86400⟩, 0⟩,
   ⟨2014, 2014, ⟨7, .on 31, .wall, 86400⟩, 3600⟩,
   ⟨2014, 2014, ⟨9, .last .thu, .wall, 86400⟩, 0⟩,
   ⟨2023, 2099, ⟨4, .last .fri, .wall, 0⟩, 3600⟩,
   ⟨2023, 2099, ⟨10, .last .thu, .wall, 86400⟩, 0⟩]

def europeanUnion : List SavingRule :=
  [⟨1977, 1980, ⟨4, .onOrAfter .sun 1, .universal, 3600⟩, 3600⟩,
   ⟨1977, 1977, ⟨9, .last .sun, .universal, 3600⟩, 0⟩,
   ⟨1978, 1978, ⟨10, .on 1, .universal, 3600⟩, 0⟩,
   ⟨1979, 1995, ⟨9, .last .sun, .universal, 3600⟩, 0⟩,
   ⟨1981, 2099, ⟨3, .last .sun, .universal, 3600⟩, 3600⟩,
   ⟨1996, 2099, ⟨10, .last .sun, .universal, 3600⟩, 0⟩]

def centralEurope : List SavingRule :=
  [⟨1916, 1916, ⟨4, .on 30, .wall, 82800⟩, 3600⟩,
   ⟨1916, 1916, ⟨10, .on 1, .wall, 3600⟩, 0⟩,
   ⟨1917, 1918, ⟨4, .onOrAfter .mon 15, .standard, 7200⟩, 3600⟩,
   ⟨1917, 1918, ⟨9, .onOrAfter .mon 15, .standard, 7200⟩, 0⟩,
   ⟨1940, 1940, ⟨4, .on 1, .standard, 7200⟩, 3600⟩,
   ⟨1942, 1942, ⟨11, .on 2, .standard, 7200⟩, 0⟩,
   ⟨1943, 1943, ⟨3, .on 29, .standard, 7200⟩, 3600⟩,
   ⟨1943, 1943, ⟨10, .on 4, .standard, 7200⟩, 0⟩,
   ⟨1944, 1945, ⟨4, .onOrAfter .mon 1, .standard, 7200⟩, 3600⟩,
   ⟨1944, 1944, ⟨10, .on 2, .standard, 7200⟩, 0⟩,
   ⟨1945, 1945, ⟨9, .on 16, .standard, 7200⟩, 0⟩,
   ⟨1977, 1980, ⟨4, .onOrAfter .sun 1, .standard, 7200⟩, 3600⟩,
   ⟨1977, 1977, ⟨9, .last .sun, .standard, 7200⟩, 0⟩,
   ⟨1978, 1978, ⟨10, .on 1, .standard, 7200⟩, 0⟩,
   ⟨1979, 1995, ⟨9, .last .sun, .standard, 7200⟩, 0⟩,
   ⟨1981, 2099, ⟨3, .last .sun, .standard, 7200⟩, 3600⟩,
   ⟨1996, 2099, ⟨10, .last .sun, .standard, 7200⟩, 0⟩]

def easternEurope : List SavingRule :=
  [⟨1977, 1980, ⟨4, .onOrAfter .sun 1, .wall, 0⟩, 3600⟩,
   ⟨1977, 1977, ⟨9, .last .sun, .wall, 0⟩, 0⟩,
   ⟨1978, 1978, ⟨10, .on 1, .wall, 0⟩, 0⟩,
   ⟨1979, 1995, ⟨9, .last .sun, .wall, 0⟩, 0⟩,
   ⟨1981, 2099, ⟨3, .last .sun, .wall, 0⟩, 3600⟩,
   ⟨1996, 2099, ⟨10, .last .sun, .wall, 0⟩, 0⟩]

def russia : List SavingRule :=
  [⟨1917, 1917, ⟨7, .on 1, .wall, 82800⟩, 3600⟩,
   ⟨1917, 1917, ⟨12, .on 28, .wall, 0⟩, 0⟩,
   ⟨1918, 1918, ⟨5, .on 31, .wall, 79200⟩, 7200⟩,
   ⟨1918, 1918, ⟨9, .on 16, .wall, 3600⟩, 3600⟩,
   ⟨1919, 1919, ⟨5, .on 31, .wall, 82800⟩, 7200⟩,
   ⟨1919, 1919, ⟨7, .on 1, .universal, 0⟩, 3600⟩,
   ⟨1919, 1919, ⟨8, .on 16, .wall, 0⟩, 0⟩,
   ⟨1921, 1921, ⟨2, .on 14, .wall, 82800⟩, 3600⟩,
   ⟨1921, 1921, ⟨3, .on 20, .wall, 82800⟩, 7200⟩,
   ⟨1921, 1921, ⟨9, .on 1, .wall, 0⟩, 3600⟩,
   ⟨1921, 1921, ⟨10, .on 1, .wall, 0⟩, 0⟩,
   ⟨1981, 1984, ⟨4, .on 1, .wall, 0⟩, 3600⟩,
   ⟨1981, 1983, ⟨10, .on 1, .wall, 0⟩, 0⟩,
   ⟨1984, 1995, ⟨9, .last .sun, .standard, 7200⟩, 0⟩,
   ⟨1985, 2010, ⟨3, .last .sun, .standard, 7200⟩, 3600⟩,
   ⟨1996, 2010, ⟨10, .last .sun, .standard, 7200⟩, 0⟩]

def portugal : List SavingRule :=
  [⟨1916, 1916, ⟨6, .on 17, .wall, 82800⟩, 3600⟩,
   ⟨1916, 1916, ⟨11, .on 1, .wall, 3600⟩, 0⟩,
   ⟨1917, 1921, ⟨3, .on 1, .wall, 0⟩, 3600⟩,
   ⟨1917, 1921, ⟨10, .on 14, .wall, 86400⟩, 0⟩,
   ⟨1924, 1924, ⟨4, .on 16, .standard, 82800⟩, 3600⟩,
   ⟨1924, 1924, ⟨10, .on 4, .standard, 82800⟩, 0⟩,
   ⟨1926, 1926, ⟨4, .on 17, .standard, 82800⟩, 3600⟩,
   ⟨1926, 1929, ⟨10, .onOrAfter .sat 1, .standard, 82800⟩, 0⟩,
   ⟨1927, 1927, ⟨4, .on 9, .standard, 82800⟩, 3600⟩,
   ⟨1928, 1928, ⟨4, .on 14, .standard, 82800⟩, 3600⟩,
   ⟨1929, 1929, ⟨4, .on 20, .standard, 82800⟩, 3600⟩,
   ⟨1931, 1931, ⟨4, .on 18, .standard, 82800⟩, 3600⟩,
   ⟨1931, 1932, ⟨10, .onOrAfter .sat 1, .standard, 82800⟩, 0⟩,
   ⟨1932, 1932, ⟨4, .on 2, .standard, 82800⟩, 3600⟩,
   ⟨1934, 1934, ⟨4, .on 7, .standard, 82800⟩, 3600⟩,
   ⟨1934, 1938, ⟨10, .onOrAfter .sat 1, .standard, 82800⟩, 0⟩,
   ⟨1935, 1935, ⟨3, .on 30, .standard, 82800⟩, 3600⟩,
   ⟨1936, 1936, ⟨4, .on 18, .standard, 82800⟩, 3600⟩,
   ⟨1937, 1937, ⟨4, .on 3, .standard, 82800⟩, 3600⟩,
   ⟨1938, 1938, ⟨3, .on 26, .standard, 82800⟩, 3600⟩,
   ⟨1939, 1939, ⟨4, .on 15, .standard, 82800⟩, 3600⟩,
   ⟨1939, 1939, ⟨11, .on 18, .standard, 82800⟩, 0⟩,
   ⟨1940, 1940, ⟨2, .on 24, .standard, 82800⟩, 3600⟩,
   ⟨1940, 1940, ⟨10, .on 7, .standard, 82800⟩, 0⟩,
   ⟨1941, 1941, ⟨4, .on 5, .standard, 82800⟩, 3600⟩,
   ⟨1941, 1941, ⟨10, .on 5, .standard, 82800⟩, 0⟩,
   ⟨1942, 1945, ⟨3, .onOrAfter .sat 8, .standard, 82800⟩, 3600⟩,
   ⟨1942, 1942, ⟨4, .on 25, .standard, 79200⟩, 7200⟩,
   ⟨1942, 1942, ⟨8, .on 15, .standard, 79200⟩, 3600⟩,
   ⟨1942, 1945, ⟨10, .onOrAfter .sat 24, .standard, 82800⟩, 0⟩,
   ⟨1943, 1943, ⟨4, .on 17, .standard, 79200⟩, 7200⟩,
   ⟨1943, 1945, ⟨8, .onOrAfter .sat 25, .standard, 79200⟩, 3600⟩,
   ⟨1944, 1945, ⟨4, .onOrAfter .sat 21, .standard, 79200⟩, 7200⟩,
   ⟨1946, 1946, ⟨4, .onOrAfter .sat 1, .standard, 82800⟩, 3600⟩,
   ⟨1946, 1946, ⟨10, .onOrAfter .sat 1, .standard, 82800⟩, 0⟩,
   ⟨1947, 1966, ⟨4, .onOrAfter .sun 1, .standard, 7200⟩, 3600⟩,
   ⟨1947, 1965, ⟨10, .onOrAfter .sun 1, .standard, 7200⟩, 0⟩,
   ⟨1976, 1976, ⟨9, .last .sun, .wall, 3600⟩, 0⟩,
   ⟨1977, 1977, ⟨3, .last .sun, .standard, 0⟩, 3600⟩,
   ⟨1977, 1977, ⟨9, .last .sun, .standard, 0⟩, 0⟩,
   ⟨1978, 1980, ⟨4, .onOrAfter .sun 1, .standard, 3600⟩, 3600⟩,
   ⟨1978, 1978, ⟨10, .on 1, .standard, 3600⟩, 0⟩,
   ⟨1979, 1980, ⟨9, .last .sun, .standard, 3600⟩, 0⟩,
   ⟨1981, 1986, ⟨3, .last .sun, .standard, 0⟩, 3600⟩,
   ⟨1981, 1985, ⟨9, .last .sun, .standard, 0⟩, 0⟩]

def spain : List SavingRule :=
  [⟨1918, 1918, ⟨4, .on 15, .wall, 82800⟩, 3600⟩,
   ⟨1918, 1919, ⟨10, .on 6, .standard, 86400⟩, 0⟩,
   ⟨1919, 1919, ⟨4, .on 6, .wall, 82800⟩, 3600⟩,
   ⟨1924, 1924, ⟨4, .on 16, .wall, 82800⟩, 3600⟩,
   ⟨1924, 1924, ⟨10, .on 4, .standard, 86400⟩, 0⟩,
   ⟨1926, 1926, ⟨4, .on 17, .wall, 82800⟩, 3600⟩,
   ⟨1926, 1929, ⟨10, .onOrAfter .sat 1, .standard, 86400⟩, 0⟩,
   ⟨1927, 1927, ⟨4, .on 9, .wall, 82800⟩, 3600⟩,
   ⟨1928, 1928, ⟨4, .on 15, .wall, 0⟩, 3600⟩,
   ⟨1929, 1929, ⟨4, .on 20, .wall, 82800⟩, 3600⟩,
   ⟨1937, 1937, ⟨6, .on 16, .wall, 82800⟩, 3600⟩,
   ⟨1937, 1937, ⟨10, .on 2, .standard, 86400⟩, 0⟩,
   ⟨1938, 1938, ⟨4, .on 2, .wall, 82800⟩, 3600⟩,
   ⟨1938, 1938, ⟨4, .on 30, .wall, 82800⟩, 7200⟩,
   ⟨1938, 1938, ⟨10, .on 2, .wall, 86400⟩, 3600⟩,
   ⟨1939, 1939, ⟨10, .on 7, .standard, 86400⟩, 0⟩,
   ⟨1942, 1942, ⟨5, .on 2, .wall, 82800⟩, 3600⟩,
   ⟨1942, 1942, ⟨9, .on 1, .wall, 3600⟩, 0⟩,
   ⟨1943, 1946, ⟨4, .onOrAfter .sat 13, .wall, 82800⟩, 3600⟩,
   ⟨1943, 1944, ⟨10, .onOrAfter .sun 1, .wall, 3600⟩, 0⟩,
   ⟨1945, 1946, ⟨9, .last .sun, .wall, 3600⟩, 0⟩,
   ⟨1949, 1949, ⟨4, .on 30, .wall, 82800⟩, 3600⟩,
   ⟨1949, 1949, ⟨10, .on 2, .wall, 3600⟩, 0⟩,
   ⟨1974, 1975, ⟨4, .onOrAfter .sat 12, .wall, 82800⟩, 3600⟩,
   ⟨1974, 1975, ⟨10, .onOrAfter .sun 1, .wall, 3600⟩, 0⟩,
   ⟨1976, 1976, ⟨3, .on 27, .wall, 82800⟩, 3600⟩,
   ⟨1976, 1977, ⟨9, .last .sun, .wall, 3600⟩, 0⟩,
   ⟨1977, 1977, ⟨4, .on 2, .wall, 82800⟩, 3600⟩,
   ⟨1978, 1978, ⟨4, .on 2, .standard, 7200⟩, 3600⟩,
   ⟨1978, 1978, ⟨10, .on 1, .standard, 7200⟩, 0⟩]

def unitedStates : List SavingRule :=
  [⟨1918, 1919, ⟨3, .last .sun, .wall, 7200⟩, 3600⟩,
   ⟨1918, 1919, ⟨10, .last .sun, .wall, 7200⟩, 0⟩,
   ⟨1942, 1942, ⟨2, .on 9, .wall, 7200⟩, 3600⟩,
   ⟨1945, 1945, ⟨8, .on 14, .universal, 82800⟩, 3600⟩,
   ⟨1945, 1945, ⟨9, .on 30, .wall, 7200⟩, 0⟩,
   ⟨1967, 2006, ⟨10, .last .sun, .wall, 7200⟩, 0⟩,
   ⟨1967, 1973, ⟨4, .last .sun, .wall, 7200⟩, 3600⟩,
   ⟨1974, 1974, ⟨1, .on 6, .wall, 7200⟩, 3600⟩,
   ⟨1975, 1975, ⟨2, .last .sun, .wall, 7200⟩, 3600⟩,
   ⟨1976, 1986, ⟨4, .last .sun, .wall, 7200⟩, 3600⟩,
   ⟨1987, 2006, ⟨4, .onOrAfter .sun 1, .wall, 7200⟩, 3600⟩,
   ⟨2007, 2099, ⟨3, .onOrAfter .sun 8, .wall, 7200⟩, 3600⟩,
   ⟨2007, 2099, ⟨11, .onOrAfter .sun 1, .wall, 7200⟩, 0⟩]

def canada : List SavingRule :=
  [⟨1918, 1918, ⟨4, .on 14, .wall, 7200⟩, 3600⟩,
   ⟨1918, 1918, ⟨10, .on 27, .wall, 7200⟩, 0⟩,
   ⟨1942, 1942, ⟨2, .on 9, .wall, 7200⟩, 3600⟩,
   ⟨1945, 1945, ⟨8, .on 14, .universal, 82800⟩, 3600⟩,
   ⟨1945, 1945, ⟨9, .on 30, .wall, 7200⟩, 0⟩,
   ⟨1974, 1986, ⟨4, .last .sun, .wall, 7200⟩, 3600⟩,
   ⟨1974, 2006, ⟨10, .last .sun, .wall, 7200⟩, 0⟩,
   ⟨1987, 2006, ⟨4, .onOrAfter .sun 1, .wall, 7200⟩, 3600⟩,
   ⟨2007, 2099, ⟨3, .onOrAfter .sun 8, .wall, 7200⟩, 3600⟩,
   ⟨2007, 2099, ⟨11, .onOrAfter .sun 1, .wall, 7200⟩, 0⟩]

def argentina : List SavingRule :=
  [⟨1930, 1930, ⟨12, .on 1, .wall, 0⟩, 3600⟩,
   ⟨1931, 1931, ⟨4, .on 1, .wall, 0⟩, 0⟩,
   ⟨1931, 1931, ⟨10, .on 15, .wall, 0⟩, 3600⟩,
   ⟨1932, 1940, ⟨3, .on 1, .wall, 0⟩, 0⟩,
   ⟨1932, 1939, ⟨11, .on 1, .wall, 0⟩, 3600⟩,
   ⟨1940, 1940, ⟨7, .on 1, .wall, 0⟩, 3600⟩,
   ⟨1941, 1941, ⟨6, .on 15, .wall, 0⟩, 0⟩,
   ⟨1941, 1941, ⟨10, .on 15, .wall, 0⟩, 3600⟩,
   ⟨1943, 1943, ⟨8, .on 1, .wall, 0⟩, 0⟩,
   ⟨1943, 1943, ⟨10, .on 15, .wall, 0⟩, 3600⟩,
   ⟨1946, 1946, ⟨3, .on 1, .wall, 0⟩, 0⟩,
   ⟨1946, 1946, ⟨10, .on 1, .wall, 0⟩, 3600⟩,
   ⟨1963, 1963, ⟨10, .on 1, .wall, 0⟩, 0⟩,
   ⟨1963, 1963, ⟨12, .on 15, .wall, 0⟩, 3600⟩,
   ⟨1964, 1966, ⟨3, .on 1, .wall, 0⟩, 0⟩,
   ⟨1964, 1966, ⟨10, .on 15, .wall, 0⟩, 3600⟩,
   ⟨1967, 1967, ⟨4, .on 2, .wall, 0⟩, 0⟩,
   ⟨1967, 1968, ⟨10, .onOrAfter .sun 1, .wall, 0⟩, 3600⟩,
   ⟨1968, 1969, ⟨4, .onOrAfter .sun 1, .wall, 0⟩, 0⟩,
   ⟨1974, 1974, ⟨1, .on 23, .wall, 0⟩, 3600⟩,
   ⟨1974, 1974, ⟨5, .on 1, .wall, 0⟩, 0⟩,
   ⟨1988, 1988, ⟨12, .on 1, .wall, 0⟩, 3600⟩,
   ⟨1989, 1993, ⟨3, .onOrAfter .sun 1, .wall, 0⟩, 0⟩,
   ⟨1989, 1992, ⟨10, .onOrAfter .sun 15, .wall, 0⟩, 3600⟩,
   ⟨1999, 1999, ⟨10, .onOrAfter .sun 1, .wall, 0⟩, 3600⟩,
   ⟨2000, 2000, ⟨3, .on 3, .wall, 0⟩, 0⟩,
   ⟨2007, 2007, ⟨12, .on 30, .wall, 0⟩, 3600⟩,
   ⟨2008, 2009, ⟨3, .onOrAfter .sun 15, .wall, 0⟩, 0⟩,
   ⟨2008, 2008, ⟨10, .onOrAfter .sun 15, .wall, 0⟩, 3600⟩]

def chile : List SavingRule :=
  [⟨1927, 1931, ⟨9, .on 1, .wall, 0⟩, 3600⟩,
   ⟨1928, 1932, ⟨4, .on 1, .wall, 0⟩, 0⟩,
   ⟨1968, 1968, ⟨11, .on 3, .universal, 14400⟩, 3600⟩,
   ⟨1969, 1969, ⟨3, .on 30, .universal, 10800⟩, 0⟩,
   ⟨1969, 1969, ⟨11, .on 23, .universal, 14400⟩, 3600⟩,
   ⟨1970, 1970, ⟨3, .on 29, .universal, 10800⟩, 0⟩,
   ⟨1971, 1971, ⟨3, .on 14, .universal, 10800⟩, 0⟩,
   ⟨1970, 1972, ⟨10, .onOrAfter .sun 9, .universal, 14400⟩, 3600⟩,
   ⟨1972, 1986, ⟨3, .onOrAfter .sun 9, .universal, 10800⟩, 0⟩,
   ⟨1973, 1973, ⟨9, .on 30, .universal, 14400⟩, 3600⟩,
   ⟨1974, 1987, ⟨10, .onOrAfter .sun 9, .universal, 14400⟩, 3600⟩,
   ⟨1987, 1987, ⟨4, .on 12, .universal, 10800⟩, 0⟩,
   ⟨1988, 1990, ⟨3, .onOrAfter .sun 9, .universal, 10800⟩, 0⟩,
   ⟨1988, 1989, ⟨10, .onOrAfter .sun 9, .universal, 14400⟩, 3600⟩,
   ⟨1990, 1990, ⟨9, .on 16, .universal, 14400⟩, 3600⟩,
   ⟨1991, 1996, ⟨3, .onOrAfter .sun 9, .universal, 10800⟩, 0⟩,
   ⟨1991, 1997, ⟨10, .onOrAfter .sun 9, .universal, 14400⟩, 3600⟩,
   ⟨1997, 1997, ⟨3, .on 30, .universal, 10800⟩, 0⟩,
   ⟨1998, 1998, ⟨3, .onOrAfter .sun 9, .universal, 10800⟩, 0⟩,
   ⟨1998, 1998, ⟨9, .on 27, .universal, 14400⟩, 3600⟩,
   ⟨1999, 1999, ⟨4, .on 4, .universal, 10800⟩, 0⟩,
   ⟨1999, 2010, ⟨10, .onOrAfter .sun 9, .universal, 14400⟩, 3600⟩,
   ⟨2000, 2007, ⟨3, .onOrAfter .sun 9, .universal, 10800⟩, 0⟩,
   ⟨2008, 2008, ⟨3, .on 30, .universal, 10800⟩, 0⟩,
   ⟨2009, 2009, ⟨3, .onOrAfter .sun 9, .universal, 10800⟩, 0⟩,
   ⟨2010, 2010, ⟨4, .onOrAfter .sun 1, .universal, 10800⟩, 0⟩,
   ⟨2011, 2011, ⟨5, .onOrAfter .sun 2, .universal, 10800⟩, 0⟩,
   ⟨2011, 2011, ⟨8, .onOrAfter .sun 16, .universal, 14400⟩, 3600⟩,
   ⟨2012, 2014, ⟨4, .onOrAfter .sun 23, .universal, 10800⟩, 0⟩,
   ⟨2012, 2014, ⟨9, .onOrAfter .sun 2, .universal, 14400⟩, 3600⟩,
   ⟨2016, 2018, ⟨5, .onOrAfter .sun 9, .universal, 10800⟩, 0⟩,
   ⟨2016, 2018, ⟨8, .onOrAfter .sun 9, .universal, 14400⟩, 3600⟩,
   ⟨2019, 2099, ⟨4, .onOrAfter .sun 2, .universal, 10800⟩, 0⟩,
   ⟨2019, 2021, ⟨9, .onOrAfter .sun 2, .universal, 14400⟩, 3600⟩,
   ⟨2022, 2022, ⟨9, .onOrAfter .sun 9, .universal, 14400⟩, 3600⟩,
   ⟨2023, 2099, ⟨9, .onOrAfter .sun 2, .universal, 14400⟩, 3600⟩]

def ecuador : List SavingRule :=
  [⟨1992, 1992, ⟨11, .on 28, .wall, 0⟩, 3600⟩,
   ⟨1993, 1993, ⟨2, .on 5, .wall, 0⟩, 0⟩]

end Punctual.ZoneTable
