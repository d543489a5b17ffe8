import Punctual.Zone.Table.Shared

/-! The histories of the time zones of the Americas. -/
namespace Punctual.ZoneTable

def thule : List SavingRule :=
  [⟨1991, 1992, ⟨3, .last .sun, .wall, 7200⟩, 3600⟩,
   ⟨1991, 1992, ⟨9, .last .sun, .wall, 7200⟩, 0⟩,
   ⟨1993, 2006, ⟨4, .onOrAfter .sun 1, .wall, 7200⟩, 3600⟩,
   ⟨1993, 2006, ⟨10, .last .sun, .wall, 7200⟩, 0⟩,
   ⟨2007, 2099, ⟨3, .onOrAfter .sun 8, .wall, 7200⟩, 3600⟩,
   ⟨2007, 2099, ⟨11, .onOrAfter .sun 1, .wall, 7200⟩, 0⟩]

def newYork : List SavingRule :=
  [⟨1920, 1920, ⟨3, .last .sun, .wall, 7200⟩, 3600⟩,
   ⟨1920, 1920, ⟨10, .last .sun, .wall, 7200⟩, 0⟩,
   ⟨1921, 1966, ⟨4, .last .sun, .wall, 7200⟩, 3600⟩,
   ⟨1921, 1954, ⟨9, .last .sun, .wall, 7200⟩, 0⟩,
   ⟨1955, 1966, ⟨10, .last .sun, .wall, 7200⟩, 0⟩]

def chicago : List SavingRule :=
  [⟨1920, 1920, ⟨6, .on 13, .wall, 7200⟩, 3600⟩,
   ⟨1920, 1921, ⟨10, .last .sun, .wall, 7200⟩, 0⟩,
   ⟨1921, 1921, ⟨3, .last .sun, .wall, 7200⟩, 3600⟩,
   ⟨1922, 1966, ⟨4, .last .sun, .wall, 7200⟩, 3600⟩,
   ⟨1922, 1954, ⟨9, .last .sun, .wall, 7200⟩, 0⟩,
   ⟨1955, 1966, ⟨10, .last .sun, .wall, 7200⟩, 0⟩]

def denver : List SavingRule :=
  [⟨1920, 1921, ⟨3, .last .sun, .wall, 7200⟩, 3600⟩,
   ⟨1920, 1920, ⟨10, .last .sun, .wall, 7200⟩, 0⟩,
   ⟨1921, 1921, ⟨5, .on 22, .wall, 7200⟩, 0⟩,
   ⟨1965, 1966, ⟨4, .last .sun, .wall, 7200⟩, 3600⟩,
   ⟨1965, 1966, ⟨10, .last .sun, .wall, 7200⟩, 0⟩]

def california : List SavingRule :=
  [⟨1948, 1948, ⟨3, .on 14, .wall, 7260⟩, 3600⟩,
   ⟨1949, 1949, ⟨1, .on 1, .wall, 7200⟩, 0⟩,
   ⟨1950, 1966, ⟨4, .last .sun, .wall, 3600⟩, 3600⟩,
   ⟨1950, 1961, ⟨9, .last .sun, .wall, 7200⟩, 0⟩,
   ⟨1962, 1966, ⟨10, .last .sun, .wall, 7200⟩, 0⟩]

def indianapolis : List SavingRule :=
  [⟨1941, 1941, ⟨6, .on 22, .wall, 7200⟩, 3600⟩,
   ⟨1941, 1954, ⟨9, .last .sun, .wall, 7200⟩, 0⟩,
   ⟨1946, 1954, ⟨4, .last .sun, .wall, 7200⟩, 3600⟩]

def marengo : List SavingRule :=
  [⟨1951, 1951, ⟨4, .last .sun, .wall, 7200⟩, 3600⟩,
   ⟨1951, 1951, ⟨9, .last .sun, .wall, 7200⟩, 0⟩,
   ⟨1954, 1960, ⟨4, .last .sun, .wall, 7200⟩, 3600⟩,
   ⟨1954, 1960, ⟨9, .last .sun, .wall, 7200⟩, 0⟩]

def vincennes : List SavingRule :=
  [⟨1946, 1946, ⟨4, .last .sun, .wall, 7200⟩, 3600⟩,
   ⟨1946, 1946, ⟨9, .last .sun, .wall, 7200⟩, 0⟩,
   ⟨1953, 1954, ⟨4, .last .sun, .wall, 7200⟩, 3600⟩,
   ⟨1953, 1959, ⟨9, .last .sun, .wall, 7200⟩, 0⟩,
   ⟨1955, 1955, ⟨5, .on 1, .wall, 0⟩, 3600⟩,
   ⟨1956, 1963, ⟨4, .last .sun, .wall, 7200⟩, 3600⟩,
   ⟨1960, 1960, ⟨10, .last .sun, .wall, 7200⟩, 0⟩,
   ⟨1961, 1961, ⟨9, .last .sun, .wall, 7200⟩, 0⟩,
   ⟨1962, 1963, ⟨10, .last .sun, .wall, 7200⟩, 0⟩]

def perry : List SavingRule :=
  [⟨1955, 1955, ⟨5, .on 1, .wall, 0⟩, 3600⟩,
   ⟨1955, 1960, ⟨9, .last .sun, .wall, 7200⟩, 0⟩,
   ⟨1956, 1963, ⟨4, .last .sun, .wall, 7200⟩, 3600⟩,
   ⟨1961, 1963, ⟨10, .last .sun, .wall, 7200⟩, 0⟩]

def pike : List SavingRule :=
  [⟨1955, 1955, ⟨5, .on 1, .wall, 0⟩, 3600⟩,
   ⟨1955, 1960, ⟨9, .last .sun, .wall, 7200⟩, 0⟩,
   ⟨1956, 1964, ⟨4, .last .sun, .wall, 7200⟩, 3600⟩,
   ⟨1961, 1964, ⟨10, .last .sun, .wall, 7200⟩, 0⟩]

def starke : List SavingRule :=
  [⟨1947, 1961, ⟨4, .last .sun, .wall, 7200⟩, 3600⟩,
   ⟨1947, 1954, ⟨9, .last .sun, .wall, 7200⟩, 0⟩,
   ⟨1955, 1956, ⟨10, .last .sun, .wall, 7200⟩, 0⟩,
   ⟨1957, 1958, ⟨9, .last .sun, .wall, 7200⟩, 0⟩,
   ⟨1959, 1961, ⟨10, .last .sun, .wall, 7200⟩, 0⟩]

def pulaski : List SavingRule :=
  [⟨1946, 1960, ⟨4, .last .sun, .wall, 7200⟩, 3600⟩,
   ⟨1946, 1954, ⟨9, .last .sun, .wall, 7200⟩, 0⟩,
   ⟨1955, 1956, ⟨10, .last .sun, .wall, 7200⟩, 0⟩,
   ⟨1957, 1960, ⟨9, .last .sun, .wall, 7200⟩, 0⟩]

def louisville : List SavingRule :=
  [⟨1921, 1921, ⟨5, .on 1, .wall, 7200⟩, 3600⟩,
   ⟨1921, 1921, ⟨9, .on 1, .wall, 7200⟩, 0⟩,
   ⟨1941, 1941, ⟨4, .last .sun, .wall, 7200⟩, 3600⟩,
   ⟨1941, 1941, ⟨9, .last .sun, .wall, 7200⟩, 0⟩,
   ⟨1946, 1946, ⟨4, .last .sun, .wall, 60⟩, 3600⟩,
   ⟨1946, 1946, ⟨6, .on 2, .wall, 7200⟩, 0⟩,
   ⟨1950, 1961, ⟨4, .last .sun, .wall, 7200⟩, 3600⟩,
   ⟨1950, 1955, ⟨9, .last .sun, .wall, 7200⟩, 0⟩,
   ⟨1956, 1961, ⟨10, .last .sun, .wall, 7200⟩, 0⟩]

def detroit : List SavingRule :=
  [⟨1948, 1948, ⟨4, .last .sun, .wall, 7200⟩, 3600⟩,
   ⟨1948, 1948, ⟨9, .last .sun, .wall, 7200⟩, 0⟩]

def menominee : List SavingRule :=
  [⟨1946, 1946, ⟨4, .last .sun, .wall, 7200⟩, 3600⟩,
   ⟨1946, 1946, ⟨9, .last .sun, .wall, 7200⟩, 0⟩,
   ⟨1966, 1966, ⟨4, .last .sun, .wall, 7200⟩, 3600⟩,
   ⟨1966, 1966, ⟨10, .last .sun, .wall, 7200⟩, 0⟩]

def stJohns : List SavingRule :=
  [⟨1917, 1917, ⟨4, .on 8, .wall, 7200⟩, 3600⟩,
   ⟨1917, 1917, ⟨9, .on 17, .wall, 7200⟩, 0⟩,
   ⟨1919, 1919, ⟨5, .on 5, .wall, 82800⟩, 3600⟩,
   ⟨1919, 1919, ⟨8, .on 12, .wall, 82800⟩, 0⟩,
   ⟨1920, 1935, ⟨5, .onOrAfter .sun 1, .wall, 82800⟩, 3600⟩,
   ⟨1920, 1935, ⟨10, .last .sun, .wall, 82800⟩, 0⟩,
   ⟨1936, 1941, ⟨5, .onOrAfter .mon 9, .wall, 0⟩, 3600⟩,
   ⟨1936, 1941, ⟨10, .onOrAfter .mon 2, .wall, 0⟩, 0⟩,
   ⟨1946, 1950, ⟨5, .onOrAfter .sun 8, .wall, 7200⟩, 3600⟩,
   ⟨1946, 1950, ⟨10, .onOrAfter .sun 2, .wall, 7200⟩, 0⟩,
   ⟨1951, 1986, ⟨4, .last .sun, .wall, 7200⟩, 3600⟩,
   ⟨1951, 1959, ⟨9, .last .sun, .wall, 7200⟩, 0⟩,
   ⟨1960, 1986, ⟨10, .last .sun, .wall, 7200⟩, 0⟩,
   ⟨1987, 1987, ⟨4, .onOrAfter .sun 1, .wall, 60⟩, 3600⟩,
   ⟨1987, 2006, ⟨10, .last .sun, .wall, 60⟩, 0⟩,
   ⟨1988, 1988, ⟨4, .onOrAfter .sun 1, .wall, 60⟩, 7200⟩,
   ⟨1989, 2006, ⟨4, .onOrAfter .sun 1, .wall, 60⟩, 3600⟩,
   ⟨2007, 2011, ⟨3, .onOrAfter .sun 8, .wall, 60⟩, 3600⟩,
   ⟨2007, 2010, ⟨11, .onOrAfter .sun 1, .wall, 60⟩, 0⟩]

def halifax : List SavingRule :=
  [⟨1916, 1916, ⟨4, .on 1, .wall, 0⟩, 3600⟩,
   ⟨1916, 1916, ⟨10, .on 1, .wall, 0⟩, 0⟩,
   ⟨1920, 1920, ⟨5, .on 9, .wall, 0⟩, 3600⟩,
   ⟨1920, 1920, ⟨8, .on 29, .wall, 0⟩, 0⟩,
   ⟨1921, 1921, ⟨5, .on 6, .wall, 0⟩, 3600⟩,
   ⟨1921, 1922, ⟨9, .on 5, .wall, 0⟩, 0⟩,
   ⟨1922, 1922, ⟨4, .on 30, .wall, 0⟩, 3600⟩,
   ⟨1923, 1925, ⟨5, .onOrAfter .sun 1, .wall, 0⟩, 3600⟩,
   ⟨1923, 1923, ⟨9, .on 4, .wall, 0⟩, 0⟩,
   ⟨1924, 1924, ⟨9, .on 15, .wall, 0⟩, 0⟩,
   ⟨1925, 1925, ⟨9, .on 28, .wall, 0⟩, 0⟩,
   ⟨1926, 1926, ⟨5, .on 16, .wall, 0⟩, 3600⟩,
   ⟨1926, 1926, ⟨9, .on 13, .wall, 0⟩, 0⟩,
   ⟨1927, 1927, ⟨5, .on 1, .wall, 0⟩, 3600⟩,
   ⟨1927, 1927, ⟨9, .on 26, .wall, 0⟩, 0⟩,
   ⟨1928, 1931, ⟨5, .onOrAfter .sun 8, .wall, 0⟩, 3600⟩,
   ⟨1928, 1928, ⟨9, .on 9, .wall, 0⟩, 0⟩,
   ⟨1929, 1929, ⟨9, .on 3, .wall, 0⟩, 0⟩,
   ⟨1930, 1930, ⟨9, .on 15, .wall, 0⟩, 0⟩,
   ⟨1931, 1932, ⟨9, .onOrAfter .mon 24, .wall, 0⟩, 0⟩,
   ⟨1932, 1932, ⟨5, .on 1, .wall, 0⟩, 3600⟩,
   ⟨1933, 1933, ⟨4, .on 30, .wall, 0⟩, 3600⟩,
   ⟨1933, 1933, ⟨10, .on 2, .wall, 0⟩, 0⟩,
   ⟨1934, 1934, ⟨5, .on 20, .wall, 0⟩, 3600⟩,
   ⟨1934, 1934, ⟨9, .on 16, .wall, 0⟩, 0⟩,
   ⟨1935, 1935, ⟨6, .on 2, .wall, 0⟩, 3600⟩,
   ⟨1935, 1935, ⟨9, .on 30, .wall, 0⟩, 0⟩,
   ⟨1936, 1936, ⟨6, .on 1, .wall, 0⟩, 3600⟩,
   ⟨1936, 1936, ⟨9, .on 14, .wall, 0⟩, 0⟩,
   ⟨1937, 1938, ⟨5, .onOrAfter .sun 1, .wall, 0⟩, 3600⟩,
   ⟨1937, 1941, ⟨9, .onOrAfter .mon 24, .wall, 0⟩, 0⟩,
   ⟨1939, 1939, ⟨5, .on 28, .wall, 0⟩, 3600⟩,
   ⟨1940, 1941, ⟨5, .onOrAfter .sun 1, .wall, 0⟩, 3600⟩,
   ⟨1946, 1949, ⟨4, .last .sun, .wall, 7200⟩, 3600⟩,
   ⟨1946, 1949, ⟨9, .last .sun, .wall, 7200⟩, 0⟩,
   ⟨1951, 1954, ⟨4, .last .sun, .wall, 7200⟩, 3600⟩,
   ⟨1951, 1954, ⟨9, .last .sun, .wall, 7200⟩, 0⟩,
   ⟨1956, 1959, ⟨4, .last .sun, .wall, 7200⟩, 3600⟩,
   ⟨1956, 1959, ⟨9, .last .sun, .wall, 7200⟩, 0⟩,
   ⟨1962, 1973, ⟨4, .last .sun, .wall, 7200⟩, 3600⟩,
   ⟨1962, 1973, ⟨10, .last .sun, .wall, 7200⟩, 0⟩]

def moncton : List SavingRule :=
  [⟨1933, 1935, ⟨6, .onOrAfter .sun 8, .wall, 3600⟩, 3600⟩,
   ⟨1933, 1935, ⟨9, .onOrAfter .sun 8, .wall, 3600⟩, 0⟩,
   ⟨1936, 1938, ⟨6, .onOrAfter .sun 1, .wall, 3600⟩, 3600⟩,
   ⟨1936, 1938, ⟨9, .onOrAfter .sun 1, .wall, 3600⟩, 0⟩,
   ⟨1939, 1939, ⟨5, .on 27, .wall, 3600⟩, 3600⟩,
   ⟨1939, 1941, ⟨9, .onOrAfter .sat 21, .wall, 3600⟩, 0⟩,
   ⟨1940, 1940, ⟨5, .on 19, .wall, 3600⟩, 3600⟩,
   ⟨1941, 1941, ⟨5, .on 4, .wall, 3600⟩, 3600⟩,
   ⟨1946, 1972, ⟨4, .last .sun, .wall, 7200⟩, 3600⟩,
   ⟨1946, 1956, ⟨9, .last .sun, .wall, 7200⟩, 0⟩,
   ⟨1957, 1972, ⟨10, .last .sun, .wall, 7200⟩, 0⟩,
   ⟨1993, 2006, ⟨4, .onOrAfter .sun 1, .wall, 60⟩, 3600⟩,
   ⟨1993, 2006, ⟨10, .last .sun, .wall, 60⟩, 0⟩]

def toronto : List SavingRule :=
  [⟨1919, 1919, ⟨3, .on 30, .wall, 84600⟩, 3600⟩,
   ⟨1919, 1919, ⟨10, .on 26, .wall, 0⟩, 0⟩,
   ⟨1920, 1920, ⟨5, .on 2, .wall, 7200⟩, 3600⟩,
   ⟨1920, 1920, ⟨9, .on 26, .wall, 0⟩, 0⟩,
   ⟨1921, 1921, ⟨5, .on 15, .wall, 7200⟩, 3600⟩,
   ⟨1921, 1921, ⟨9, .on 15, .wall, 7200⟩, 0⟩,
   ⟨1922, 1923, ⟨5, .onOrAfter .sun 8, .wall, 7200⟩, 3600⟩,
   ⟨1922, 1926, ⟨9, .onOrAfter .sun 15, .wall, 7200⟩, 0⟩,
   ⟨1924, 1927, ⟨5, .onOrAfter .sun 1, .wall, 7200⟩, 3600⟩,
   ⟨1927, 1937, ⟨9, .onOrAfter .sun 25, .wall, 7200⟩, 0⟩,
   ⟨1928, 1937, ⟨4, .onOrAfter .sun 25, .wall, 7200⟩, 3600⟩,
   ⟨1938, 1940, ⟨4, .last .sun, .wall, 7200⟩, 3600⟩,
   ⟨1938, 1939, ⟨9, .last .sun, .wall, 7200⟩, 0⟩,
   ⟨1945, 1948, ⟨9, .last .sun, .wall, 7200⟩, 0⟩,
   ⟨1946, 1973, ⟨4, .last .sun, .wall, 7200⟩, 3600⟩,
   ⟨1949, 1950, ⟨11, .last .sun, .wall, 7200⟩, 0⟩,
   ⟨1951, 1956, ⟨9, .last .sun, .wall, 7200⟩, 0⟩,
   ⟨1957, 1973, ⟨10, .last .sun, .wall, 7200⟩, 0⟩]

def winnipeg : List SavingRule :=
  [⟨1916, 1916, ⟨4, .on 23, .wall, 0⟩, 3600⟩,
   ⟨1916, 1916, ⟨9, .on 17, .wall, 0⟩, 0⟩,
   ⟨1918, 1918, ⟨4, .on 14, .wall, 7200⟩, 3600⟩,
   ⟨1918, 1918, ⟨10, .on 27, .wall, 7200⟩, 0⟩,
   ⟨1937, 1937, ⟨5, .on 16, .wall, 7200⟩, 3600⟩,
   ⟨1937, 1937, ⟨9, .on 26, .wall, 7200⟩, 0⟩,
   ⟨1942, 1942, ⟨2, .on 9, .wall, 7200⟩, 3600⟩,
   ⟨1945, 1945, ⟨8, .on 14, .universal, 82800⟩, 3600⟩,
   ⟨1945, 1945, ⟨9, .last .sun, .wall, 7200⟩, 0⟩,
   ⟨1946, 1946, ⟨5, .on 12, .wall, 7200⟩, 3600⟩,
   ⟨1946, 1946, ⟨10, .on 13, .wall, 7200⟩, 0⟩,
   ⟨1947, 1949, ⟨4, .last .sun, .wall, 7200⟩, 3600⟩,
   ⟨1947, 1949, ⟨9, .last .sun, .wall, 7200⟩, 0⟩,
   ⟨1950, 1950, ⟨5, .on 1, .wall, 7200⟩, 3600⟩,
   ⟨1950, 1950, ⟨9, .on 30, .wall, 7200⟩, 0⟩,
   ⟨1951, 1960, ⟨4, .last .sun, .wall, 7200⟩, 3600⟩,
   ⟨1951, 1958, ⟨9, .last .sun, .wall, 7200⟩, 0⟩,
   ⟨1959, 1959, ⟨10, .last .sun, .wall, 7200⟩, 0⟩,
   ⟨1960, 1960, ⟨9, .last .sun, .wall, 7200⟩, 0⟩,
   ⟨1963, 1963, ⟨4, .last .sun, .wall, 7200⟩, 3600⟩,
   ⟨1963, 1963, ⟨9, .on 22, .wall, 7200⟩, 0⟩,
   ⟨1966, 1986, ⟨4, .last .sun, .standard, 7200⟩, 3600⟩,
   ⟨1966, 2005, ⟨10, .last .sun, .standard, 7200⟩, 0⟩,
   ⟨1987, 2005, ⟨4, .onOrAfter .sun 1, .standard, 7200⟩, 3600⟩]

def regina : List SavingRule :=
  [⟨1918, 1918, ⟨4, .on 14, .wall, 7200⟩, 3600⟩,
   ⟨1918, 1918, ⟨10, .on 27, .wall, 7200⟩, 0⟩,
   ⟨1930, 1934, ⟨5, .onOrAfter .sun 1, .wall, 0⟩, 3600⟩,
   ⟨1930, 1934, ⟨10, .onOrAfter .sun 1, .wall, 0⟩, 0⟩,
   ⟨1937, 1941, ⟨4, .onOrAfter .sun 8, .wall, 0⟩, 3600⟩,
   ⟨1937, 1937, ⟨10, .onOrAfter .sun 8, .wall, 0⟩, 0⟩,
   ⟨1938, 1938, ⟨10, .onOrAfter .sun 1, .wall, 0⟩, 0⟩,
   ⟨1939, 1941, ⟨10, .onOrAfter .sun 8, .wall, 0⟩, 0⟩,
   ⟨1942, 1942, ⟨2, .on 9, .wall, 7200⟩, 3600⟩,
   ⟨1945, 1945, ⟨8, .on 14, .universal, 82800⟩, 3600⟩,
   ⟨1945, 1945, ⟨9, .last .sun, .wall, 7200⟩, 0⟩,
   ⟨1946, 1946, ⟨4, .onOrAfter .sun 8, .wall, 7200⟩, 3600⟩,
   ⟨1946, 1946, ⟨10, .onOrAfter .sun 8, .wall, 7200⟩, 0⟩,
   ⟨1947, 1957, ⟨4, .last .sun, .wall, 7200⟩, 3600⟩,
   ⟨1947, 1957, ⟨9, .last .sun, .wall, 7200⟩, 0⟩,
   ⟨1959, 1959, ⟨4, .last .sun, .wall, 7200⟩, 3600⟩,
   ⟨1959, 1959, ⟨10, .last .sun, .wall, 7200⟩, 0⟩]

def swiftCurrent : List SavingRule :=
  [⟨1957, 1957, ⟨4, .last .sun, .wall, 7200⟩, 3600⟩,
   ⟨1957, 1957, ⟨10, .last .sun, .wall, 7200⟩, 0⟩,
   ⟨1959, 1961, ⟨4, .last .sun, .wall, 7200⟩, 3600⟩,
   ⟨1959, 1959, ⟨10, .last .sun, .wall, 7200⟩, 0⟩,
   ⟨1960, 1961, ⟨9, .last .sun, .wall, 7200⟩, 0⟩]

def edmonton : List SavingRule :=
  [⟨1918, 1919, ⟨4, .onOrAfter .sun 8, .wall, 7200⟩, 3600⟩,
   ⟨1918, 1918, ⟨10, .on 27, .wall, 7200⟩, 0⟩,
   ⟨1919, 1919, ⟨5, .on 27, .wall, 7200⟩, 0⟩,
   ⟨1920, 1923, ⟨4, .last .sun, .wall, 7200⟩, 3600⟩,
   ⟨1920, 1920, ⟨10, .last .sun, .wall, 7200⟩, 0⟩,
   ⟨1921, 1923, ⟨9, .last .sun, .wall, 7200⟩, 0⟩,
   ⟨1942, 1942, ⟨2, .on 9, .wall, 7200⟩, 3600⟩,
   ⟨1945, 1945, ⟨8, .on 14, .universal, 82800⟩, 3600⟩,
   ⟨1945, 1945, ⟨9, .last .sun, .wall, 7200⟩, 0⟩,
   ⟨1947, 1947, ⟨4, .last .sun, .wall, 7200⟩, 3600⟩,
   ⟨1947, 1947, ⟨9, .last .sun, .wall, 7200⟩, 0⟩,
   ⟨1972, 1986, ⟨4, .last .sun, .wall, 7200⟩, 3600⟩,
   ⟨1972, 2006, ⟨10, .last .sun, .wall, 7200⟩, 0⟩]

def vancouver : List SavingRule :=
  [⟨1918, 1918, ⟨4, .on 14, .wall, 7200⟩, 3600⟩,
   ⟨1918, 1918, ⟨10, .on 27, .wall, 7200⟩, 0⟩,
   ⟨1942, 1942, ⟨2, .on 9, .wall, 7200⟩, 3600⟩,
   ⟨1945, 1945, ⟨8, .on 14, .universal, 82800⟩, 3600⟩,
   ⟨1945, 1945, ⟨9, .on 30, .wall, 7200⟩, 0⟩,
   ⟨1946, 1986, ⟨4, .last .sun, .wall, 7200⟩, 3600⟩,
   ⟨1946, 1946, ⟨9, .on 29, .wall, 7200⟩, 0⟩,
   ⟨1947, 1961, ⟨9, .last .sun, .wall, 7200⟩, 0⟩,
   ⟨1962, 2006, ⟨10, .last .sun, .wall, 7200⟩, 0⟩]

def northwestTerritories : List SavingRule :=
  [⟨1918, 1918, ⟨4, .on 14, .wall, 7200⟩, 3600⟩,
   ⟨1918, 1918, ⟨10, .on 27, .wall, 7200⟩, 0⟩,
   ⟨1919, 1919, ⟨5, .on 25, .wall, 7200⟩, 3600⟩,
   ⟨1919, 1919, ⟨11, .on 1, .wall, 0⟩, 0⟩,
   ⟨1942, 1942, ⟨2, .on 9, .wall, 7200⟩, 3600⟩,
   ⟨1945, 1945, ⟨8, .on 14, .universal, 82800⟩, 3600⟩,
   ⟨1945, 1945, ⟨9, .on 30, .wall, 7200⟩, 0⟩,
   ⟨1972, 1986, ⟨4, .last .sun, .wall, 7200⟩, 3600⟩,
   ⟨1972, 2006, ⟨10, .last .sun, .wall, 7200⟩, 0⟩,
   ⟨1987, 2006, ⟨4, .onOrAfter .sun 1, .wall, 7200⟩, 3600⟩]

def yukon : List SavingRule :=
  [⟨1965, 1965, ⟨4, .last .sun, .wall, 0⟩, 7200⟩,
   ⟨1965, 1965, ⟨10, .last .sun, .wall, 7200⟩, 0⟩]

def mexico : List SavingRule :=
  [⟨1931, 1931, ⟨4, .on 30, .wall, 0⟩, 3600⟩,
   ⟨1931, 1931, ⟨10, .on 1, .wall, 0⟩, 0⟩,
   ⟨1939, 1939, ⟨2, .on 5, .wall, 0⟩, 3600⟩,
   ⟨1939, 1939, ⟨6, .on 25, .wall, 0⟩, 0⟩,
   ⟨1940, 1940, ⟨12, .on 9, .wall, 0⟩, 3600⟩,
   ⟨1941, 1941, ⟨4, .on 1, .wall, 0⟩, 0⟩,
   ⟨1943, 1943, ⟨12, .on 16, .wall, 0⟩, 3600⟩,
   ⟨1944, 1944, ⟨5, .on 1, .wall, 0⟩, 0⟩,
   ⟨1950, 1950, ⟨2, .on 12, .wall, 0⟩, 3600⟩,
   ⟨1950, 1950, ⟨7, .on 30, .wall, 0⟩, 0⟩,
   ⟨1996, 2000, ⟨4, .onOrAfter .sun 1, .wall, 7200⟩, 3600⟩,
   ⟨1996, 2000, ⟨10, .last .sun, .wall, 7200⟩, 0⟩,
   ⟨2001, 2001, ⟨5, .onOrAfter .sun 1, .wall, 7200⟩, 3600⟩,
   ⟨2001, 2001, ⟨9, .last .sun, .wall, 7200⟩, 0⟩,
   ⟨2002, 2022, ⟨4, .onOrAfter .sun 1, .wall, 7200⟩, 3600⟩,
   ⟨2002, 2022, ⟨10, .last .sun, .wall, 7200⟩, 0⟩]

def barbados : List SavingRule :=
  [⟨1942, 1942, ⟨4, .on 19, .universal, 18000⟩, 3600⟩,
   ⟨1942, 1942, ⟨8, .on 31, .universal, 21600⟩, 0⟩,
   ⟨1943, 1943, ⟨5, .on 2, .universal, 18000⟩, 3600⟩,
   ⟨1943, 1943, ⟨9, .on 5, .universal, 21600⟩, 0⟩,
   ⟨1944, 1944, ⟨4, .on 10, .universal, 18000⟩, 1800⟩,
   ⟨1944, 1944, ⟨9, .on 10, .universal, 21600⟩, 0⟩,
   ⟨1977, 1977, ⟨6, .on 12, .wall, 7200⟩, 3600⟩,
   ⟨1977, 1978, ⟨10, .onOrAfter .sun 1, .wall, 7200⟩, 0⟩,
   ⟨1978, 1980, ⟨4, .onOrAfter .sun 15, .wall, 7200⟩, 3600⟩,
   ⟨1979, 1979, ⟨9, .on 30, .wall, 7200⟩, 0⟩,
   ⟨1980, 1980, ⟨9, .on 25, .wall, 7200⟩, 0⟩]

def belize : List SavingRule :=
  [⟨1918, 1941, ⟨10, .onOrAfter .sat 1, .wall, 86400⟩, 1800⟩,
   ⟨1919, 1942, ⟨2, .onOrAfter .sat 8, .wall, 86400⟩, 0⟩,
   ⟨1942, 1942, ⟨6, .on 27, .wall, 86400⟩, 3600⟩,
   ⟨1945, 1945, ⟨8, .on 14, .universal, 82800⟩, 3600⟩,
   ⟨1945, 1945, ⟨12, .on 15, .wall, 86400⟩, 0⟩,
   ⟨1947, 1967, ⟨10, .onOrAfter .sat 1, .wall, 86400⟩, 1800⟩,
   ⟨1948, 1968, ⟨2, .onOrAfter .sat 8, .wall, 86400⟩, 0⟩,
   ⟨1973, 1973, ⟨12, .on 5, .wall, 0⟩, 3600⟩,
   ⟨1974, 1974, ⟨2, .on 9, .wall, 0⟩, 0⟩,
   ⟨1982, 1982, ⟨12, .on 18, .wall, 0⟩, 3600⟩,
   ⟨1983, 1983, ⟨2, .on 12, .wall, 0⟩, 0⟩]

def costaRica : List SavingRule :=
  [⟨1979, 1980, ⟨2, .last .sun, .wall, 0⟩, 3600⟩,
   ⟨1979, 1980, ⟨6, .onOrAfter .sun 1, .wall, 0⟩, 0⟩,
   ⟨1991, 1992, ⟨1, .onOrAfter .sat 15, .wall, 0⟩, 3600⟩,
   ⟨1991, 1991, ⟨7, .on 1, .wall, 0⟩, 0⟩,
   ⟨1992, 1992, ⟨3, .on 15, .wall, 0⟩, 0⟩]

def cuba : List SavingRule :=
  [⟨1928, 1928, ⟨6, .on 10, .wall, 0⟩, 3600⟩,
   ⟨1928, 1928, ⟨10, .on 10, .wall, 0⟩, 0⟩,
   ⟨1940, 1942, ⟨6, .onOrAfter .sun 1, .wall, 0⟩, 3600⟩,
   ⟨1940, 1942, ⟨9, .onOrAfter .sun 1, .wall, 0⟩, 0⟩,
   ⟨1945, 1946, ⟨6, .onOrAfter .sun 1, .wall, 0⟩, 3600⟩,
   ⟨1945, 1946, ⟨9, .onOrAfter .sun 1, .wall, 0⟩, 0⟩,
   ⟨1965, 1965, ⟨6, .on 1, .wall, 0⟩, 3600⟩,
   ⟨1965, 1965, ⟨9, .on 30, .wall, 0⟩, 0⟩,
   ⟨1966, 1966, ⟨5, .on 29, .wall, 0⟩, 3600⟩,
   ⟨1966, 1966, ⟨10, .on 2, .wall, 0⟩, 0⟩,
   ⟨1967, 1967, ⟨4, .on 8, .wall, 0⟩, 3600⟩,
   ⟨1967, 1968, ⟨9, .onOrAfter .sun 8, .wall, 0⟩, 0⟩,
   ⟨1968, 1968, ⟨4, .on 14, .wall, 0⟩, 3600⟩,
   ⟨1969, 1977, ⟨4, .last .sun, .wall, 0⟩, 3600⟩,
   ⟨1969, 1971, ⟨10, .last .sun, .wall, 0⟩, 0⟩,
   ⟨1972, 1974, ⟨10, .on 8, .wall, 0⟩, 0⟩,
   ⟨1975, 1977, ⟨10, .last .sun, .wall, 0⟩, 0⟩,
   ⟨1978, 1978, ⟨5, .on 7, .wall, 0⟩, 3600⟩,
   ⟨1978, 1990, ⟨10, .onOrAfter .sun 8, .wall, 0⟩, 0⟩,
   ⟨1979, 1980, ⟨3, .onOrAfter .sun 15, .wall, 0⟩, 3600⟩,
   ⟨1981, 1985, ⟨5, .onOrAfter .sun 5, .wall, 0⟩, 3600⟩,
   ⟨1986, 1989, ⟨3, .onOrAfter .sun 14, .wall, 0⟩, 3600⟩,
   ⟨1990, 1997, ⟨4, .onOrAfter .sun 1, .wall, 0⟩, 3600⟩,
   ⟨1991, 1995, ⟨10, .onOrAfter .sun 8, .standard, 0⟩, 0⟩,
   ⟨1996, 1996, ⟨10, .on 6, .standard, 0⟩, 0⟩,
   ⟨1997, 1997, ⟨10, .on 12, .standard, 0⟩, 0⟩,
   ⟨1998, 1999, ⟨3, .last .sun, .standard, 0⟩, 3600⟩,
   ⟨1998, 2003, ⟨10, .last .sun, .standard, 0⟩, 0⟩,
   ⟨2000, 2003, ⟨4, .onOrAfter .sun 1, .standard, 0⟩, 3600⟩,
   ⟨2004, 2004, ⟨3, .last .sun, .standard, 0⟩, 3600⟩,
   ⟨2006, 2010, ⟨10, .last .sun, .standard, 0⟩, 0⟩,
   ⟨2007, 2007, ⟨3, .onOrAfter .sun 8, .standard, 0⟩, 3600⟩,
   ⟨2008, 2008, ⟨3, .onOrAfter .sun 15, .standard, 0⟩, 3600⟩,
   ⟨2009, 2010, ⟨3, .onOrAfter .sun 8, .standard, 0⟩, 3600⟩,
   ⟨2011, 2011, ⟨3, .onOrAfter .sun 15, .standard, 0⟩, 3600⟩,
   ⟨2011, 2011, ⟨11, .on 13, .standard, 0⟩, 0⟩,
   ⟨2012, 2012, ⟨4, .on 1, .standard, 0⟩, 3600⟩,
   ⟨2012, 2099, ⟨11, .onOrAfter .sun 1, .standard, 0⟩, 0⟩,
   ⟨2013, 2099, ⟨3, .onOrAfter .sun 8, .standard, 0⟩, 3600⟩]

def dominicanRepublic : List SavingRule :=
  [⟨1966, 1966, ⟨10, .on 30, .wall, 0⟩, 3600⟩,
   ⟨1967, 1967, ⟨2, .on 28, .wall, 0⟩, 0⟩,
   ⟨1969, 1973, ⟨10, .last .sun, .wall, 0⟩, 1800⟩,
   ⟨1970, 1970, ⟨2, .on 21, .wall, 0⟩, 0⟩,
   ⟨1971, 1971, ⟨1, .on 20, .wall, 0⟩, 0⟩,
   ⟨1972, 1974, ⟨1, .on 21, .wall, 0⟩, 0⟩]

def salvador : List SavingRule :=
  [⟨1987, 1988, ⟨5, .onOrAfter .sun 1, .wall, 0⟩, 3600⟩,
   ⟨1987, 1988, ⟨9, .last .sun, .wall, 0⟩, 0⟩]

def guatemala : List SavingRule :=
  [⟨1973, 1973, ⟨11, .on 25, .wall, 0⟩, 3600⟩,
   ⟨1974, 1974, ⟨2, .on 24, .wall, 0⟩, 0⟩,
   ⟨1983, 1983, ⟨5, .on 21, .wall, 0⟩, 3600⟩,
   ⟨1983, 1983, ⟨9, .on 22, .wall, 0⟩, 0⟩,
   ⟨1991, 1991, ⟨3, .on 23, .wall, 0⟩, 3600⟩,
   ⟨1991, 1991, ⟨9, .on 7, .wall, 0⟩, 0⟩,
   ⟨2006, 2006, ⟨4, .on 30, .wall, 0⟩, 3600⟩,
   ⟨2006, 2006, ⟨10, .on 1, .wall, 0⟩, 0⟩]

def haiti : List SavingRule :=
  [⟨1983, 1983, ⟨5, .on 8, .wall, 0⟩, 3600⟩,
   ⟨1984, 1987, ⟨4, .last .sun, .wall, 0⟩, 3600⟩,
   ⟨1983, 1987, ⟨10, .last .sun, .wall, 0⟩, 0⟩,
   ⟨1988, 1997, ⟨4, .onOrAfter .sun 1, .standard, 3600⟩, 3600⟩,
   ⟨1988, 1997, ⟨10, .last .sun, .standard, 3600⟩, 0⟩,
   ⟨2005, 2006, ⟨4, .onOrAfter .sun 1, .wall, 0⟩, 3600⟩,
   ⟨2005, 2006, ⟨10, .last .sun, .wall, 0⟩, 0⟩,
   ⟨2012, 2015, ⟨3, .onOrAfter .sun 8, .wall, 7200⟩, 3600⟩,
   ⟨2012, 2015, ⟨11, .onOrAfter .sun 1, .wall, 7200⟩, 0⟩,
   ⟨2017, 2099, ⟨3, .onOrAfter .sun 8, .wall, 7200⟩, 3600⟩,
   ⟨2017, 2099, ⟨11, .onOrAfter .sun 1, .wall, 7200⟩, 0⟩]

def honduras : List SavingRule :=
  [⟨1987, 1988, ⟨5, .onOrAfter .sun 1, .wall, 0⟩, 3600⟩,
   ⟨1987, 1988, ⟨9, .last .sun, .wall, 0⟩, 0⟩,
   ⟨2006, 2006, ⟨5, .onOrAfter .sun 1, .wall, 0⟩, 3600⟩,
   ⟨2006, 2006, ⟨8, .onOrAfter .mon 1, .wall, 0⟩, 0⟩]

def nicaragua : List SavingRule :=
  [⟨1979, 1980, ⟨3, .onOrAfter .sun 16, .wall, 0⟩, 3600⟩,
   ⟨1979, 1980, ⟨6, .onOrAfter .mon 23, .wall, 0⟩, 0⟩,
   ⟨2005, 2005, ⟨4, .on 10, .wall, 0⟩, 3600⟩,
   ⟨2005, 2005, ⟨10, .onOrAfter .sun 1, .wall, 0⟩, 0⟩,
   ⟨2006, 2006, ⟨4, .on 30, .wall, 7200⟩, 3600⟩,
   ⟨2006, 2006, ⟨10, .onOrAfter .sun 1, .wall, 3600⟩, 0⟩]

def sanLuis : List SavingRule :=
  [⟨2008, 2009, ⟨3, .onOrAfter .sun 8, .wall, 0⟩, 0⟩,
   ⟨2007, 2008, ⟨10, .onOrAfter .sun 8, .wall, 0⟩, 3600⟩]

def brazil : List SavingRule :=
  [⟨1931, 1931, ⟨10, .on 3, .wall, 39600⟩, 3600⟩,
   ⟨1932, 1933, ⟨4, .on 1, .wall, 0⟩, 0⟩,
   ⟨1932, 1932, ⟨10, .on 3, .wall, 0⟩, 3600⟩,
   ⟨1949, 1952, ⟨12, .on 1, .wall, 0⟩, 3600⟩,
   ⟨1950, 1950, ⟨4, .on 16, .wall, 3600⟩, 0⟩,
   ⟨1951, 1952, ⟨4, .on 1, .wall, 0⟩, 0⟩,
   ⟨1953, 1953, ⟨3, .on 1, .wall, 0⟩, 0⟩,
   ⟨1963, 1963, ⟨12, .on 9, .wall, 0⟩, 3600⟩,
   ⟨1964, 1964, ⟨3, .on 1, .wall, 0⟩, 0⟩,
   ⟨1965, 1965, ⟨1, .on 31, .wall, 0⟩, 3600⟩,
   ⟨1965, 1965, ⟨3, .on 31, .wall, 0⟩, 0⟩,
   ⟨1965, 1965, ⟨12, .on 1, .wall, 0⟩, 3600⟩,
   ⟨1966, 1968, ⟨3, .on 1, .wall, 0⟩, 0⟩,
   ⟨1966, 1967, ⟨11, .on 1, .wall, 0⟩, 3600⟩,
   ⟨1985, 1985, ⟨11, .on 2, .wall, 0⟩, 3600⟩,
   ⟨1986, 1986, ⟨3, .on 15, .wall, 0⟩, 0⟩,
   ⟨1986, 1986, ⟨10, .on 25, .wall, 0⟩, 3600⟩,
   ⟨1987, 1987, ⟨2, .on 14, .wall, 0⟩, 0⟩,
   ⟨1987, 1987, ⟨10, .on 25, .wall, 0⟩, 3600⟩,
   ⟨1988, 1988, ⟨2, .on 7, .wall, 0⟩, 0⟩,
   ⟨1988, 1988, ⟨10, .on 16, .wall, 0⟩, 3600⟩,
   ⟨1989, 1989, ⟨1, .on 29, .wall, 0⟩, 0⟩,
   ⟨1989, 1989, ⟨10, .on 15, .wall, 0⟩, 3600⟩,
   ⟨1990, 1990, ⟨2, .on 11, .wall, 0⟩, 0⟩,
   ⟨1990, 1990, ⟨10, .on 21, .wall, 0⟩, 3600⟩,
   ⟨1991, 1991, ⟨2, .on 17, .wall, 0⟩, 0⟩,
   ⟨1991, 1991, ⟨10, .on 20, .wall, 0⟩, 3600⟩,
   ⟨1992, 1992, ⟨2, .on 9, .wall, 0⟩, 0⟩,
   ⟨1992, 1992, ⟨10, .on 25, .wall, 0⟩, 3600⟩,
   ⟨1993, 1993, ⟨1, .on 31, .wall, 0⟩, 0⟩,
   ⟨1993, 1995, ⟨10, .onOrAfter .sun 11, .wall, 0⟩, 3600⟩,
   ⟨1994, 1995, ⟨2, .onOrAfter .sun 15, .wall, 0⟩, 0⟩,
   ⟨1996, 1996, ⟨2, .on 11, .wall, 0⟩, 0⟩,
   ⟨1996, 1996, ⟨10, .on 6, .wall, 0⟩, 3600⟩,
   ⟨1997, 1997, ⟨2, .on 16, .wall, 0⟩, 0⟩,
   ⟨1997, 1997, ⟨10, .on 6, .wall, 0⟩, 3600⟩,
   ⟨1998, 1998, ⟨3, .on 1, .wall, 0⟩, 0⟩,
   ⟨1998, 1998, ⟨10, .on 11, .wall, 0⟩, 3600⟩,
   ⟨1999, 1999, ⟨2, .on 21, .wall, 0⟩, 0⟩,
   ⟨1999, 1999, ⟨10, .on 3, .wall, 0⟩, 3600⟩,
   ⟨2000, 2000, ⟨2, .on 27, .wall, 0⟩, 0⟩,
   ⟨2000, 2001, ⟨10, .onOrAfter .sun 8, .wall, 0⟩, 3600⟩,
   ⟨2001, 2006, ⟨2, .onOrAfter .sun 15, .wall, 0⟩, 0⟩,
   ⟨2002, 2002, ⟨11, .on 3, .wall, 0⟩, 3600⟩,
   ⟨2003, 2003, ⟨10, .on 19, .wall, 0⟩, 3600⟩,
   ⟨2004, 2004, ⟨11, .on 2, .wall, 0⟩, 3600⟩,
   ⟨2005, 2005, ⟨10, .on 16, .wall, 0⟩, 3600⟩,
   ⟨2006, 2006, ⟨11, .on 5, .wall, 0⟩, 3600⟩,
   ⟨2007, 2007, ⟨2, .on 25, .wall, 0⟩, 0⟩,
   ⟨2007, 2007, ⟨10, .onOrAfter .sun 8, .wall, 0⟩, 3600⟩,
   ⟨2008, 2017, ⟨10, .onOrAfter .sun 15, .wall, 0⟩, 3600⟩,
   ⟨2008, 2011, ⟨2, .onOrAfter .sun 15, .wall, 0⟩, 0⟩,
   ⟨2012, 2012, ⟨2, .onOrAfter .sun 22, .wall, 0⟩, 0⟩,
   ⟨2013, 2014, ⟨2, .onOrAfter .sun 15, .wall, 0⟩, 0⟩,
   ⟨2015, 2015, ⟨2, .onOrAfter .sun 22, .wall, 0⟩, 0⟩,
   ⟨2016, 2019, ⟨2, .onOrAfter .sun 15, .wall, 0⟩, 0⟩,
   ⟨2018, 2018, ⟨11, .onOrAfter .sun 1, .wall, 0⟩, 3600⟩]

def colombia : List SavingRule :=
  [⟨1992, 1992, ⟨5, .on 3, .wall, 0⟩, 3600⟩,
   ⟨1993, 1993, ⟨2, .on 6, .wall, 86400⟩, 0⟩]

def paraguay : List SavingRule :=
  [⟨1975, 1988, ⟨10, .on 1, .wall, 0⟩, 3600⟩,
   ⟨1975, 1978, ⟨3, .on 1, .wall, 0⟩, 0⟩,
   ⟨1979, 1991, ⟨4, .on 1, .wall, 0⟩, 0⟩,
   ⟨1989, 1989, ⟨10, .on 22, .wall, 0⟩, 3600⟩,
   ⟨1990, 1990, ⟨10, .on 1, .wall, 0⟩, 3600⟩,
   ⟨1991, 1991, ⟨10, .on 6, .wall, 0⟩, 3600⟩,
   ⟨1992, 1992, ⟨3, .on 1, .wall, 0⟩, 0⟩,
   ⟨1992, 1992, ⟨10, .on 5, .wall, 0⟩, 3600⟩,
   ⟨1993, 1993, ⟨3, .on 31, .wall, 0⟩, 0⟩,
   ⟨1993, 1995, ⟨10, .on 1, .wall, 0⟩, 3600⟩,
   ⟨1994, 1995, ⟨2, .last .sun, .wall, 0⟩, 0⟩,
   ⟨1996, 1996, ⟨3, .on 1, .wall, 0⟩, 0⟩,
   ⟨1996, 2001, ⟨10, .onOrAfter .sun 1, .wall, 0⟩, 3600⟩,
   ⟨1997, 1997, ⟨2, .last .sun, .wall, 0⟩, 0⟩,
   ⟨1998, 2001, ⟨3, .onOrAfter .sun 1, .wall, 0⟩, 0⟩,
   ⟨2002, 2004, ⟨4, .onOrAfter .sun 1, .wall, 0⟩, 0⟩,
   ⟨2002, 2003, ⟨9, .onOrAfter .sun 1, .wall, 0⟩, 3600⟩,
   ⟨2004, 2009, ⟨10, .onOrAfter .sun 15, .wall, 0⟩, 3600⟩,
   ⟨2005, 2009, ⟨3, .onOrAfter .sun 8, .wall, 0⟩, 0⟩,
   ⟨2010, 2024, ⟨10, .onOrAfter .sun 1, .wall, 0⟩, 3600⟩,
   ⟨2010, 2012, ⟨4, .onOrAfter .sun 8, .wall, 0⟩, 0⟩,
   ⟨2013, 2024, ⟨3, .onOrAfter .sun 22, .wall, 0⟩, 0⟩]

def peru : List SavingRule :=
  [⟨1938, 1938, ⟨1, .on 1, .wall, 0⟩, 3600⟩,
   ⟨1938, 1938, ⟨4, .on 1, .wall, 0⟩, 0⟩,
   ⟨1938, 1939, ⟨9, .last .sun, .wall, 0⟩, 3600⟩,
   ⟨1939, 1940, ⟨3, .onOrAfter .sun 24, .wall, 0⟩, 0⟩,
   ⟨1986, 1987, ⟨1, .on 1, .wall, 0⟩, 3600⟩,
   ⟨1986, 1987, ⟨4, .on 1, .wall, 0⟩, 0⟩,
   ⟨1990, 1990, ⟨1, .on 1, .wall, 0⟩, 3600⟩,
   ⟨1990, 1990, ⟨4, .on 1, .wall, 0⟩, 0⟩,
   ⟨1994, 1994, ⟨1, .on 1, .wall, 0⟩, 3600⟩,
   ⟨1994, 1994, ⟨4, .on 1, .wall, 0⟩, 0⟩]

def uruguay : List SavingRule :=
  [⟨1923, 1925, ⟨10, .on 1, .wall, 0⟩, 1800⟩,
   ⟨1924, 1926, ⟨4, .on 1, .wall, 0⟩, 0⟩,
   ⟨1933, 1938, ⟨10, .last .sun, .wall, 0⟩, 1800⟩,
   ⟨1934, 1941, ⟨3, .last .sat, .wall, 86400⟩, 0⟩,
   ⟨1939, 1939, ⟨10, .on 1, .wall, 0⟩, 1800⟩,
   ⟨1940, 1940, ⟨10, .on 27, .wall, 0⟩, 1800⟩,
   ⟨1941, 1941, ⟨8, .on 1, .wall, 0⟩, 1800⟩,
   ⟨1942, 1942, ⟨12, .on 14, .wall, 0⟩, 1800⟩,
   ⟨1943, 1943, ⟨3, .on 14, .wall, 0⟩, 0⟩,
   ⟨1959, 1959, ⟨5, .on 24, .wall, 0⟩, 1800⟩,
   ⟨1959, 1959, ⟨11, .on 15, .wall, 0⟩, 0⟩,
   ⟨1960, 1960, ⟨1, .on 17, .wall, 0⟩, 3600⟩,
   ⟨1960, 1960, ⟨3, .on 6, .wall, 0⟩, 0⟩,
   ⟨1965, 1965, ⟨4, .on 4, .wall, 0⟩, 3600⟩,
   ⟨1965, 1965, ⟨9, .on 26, .wall, 0⟩, 0⟩,
   ⟨1968, 1968, ⟨5, .on 27, .wall, 0⟩, 1800⟩,
   ⟨1968, 1968, ⟨12, .on 1, .wall, 0⟩, 0⟩,
   ⟨1970, 1970, ⟨4, .on 25, .wall, 0⟩, 3600⟩,
   ⟨1970, 1970, ⟨6, .on 14, .wall, 0⟩, 0⟩,
   ⟨1972, 1972, ⟨4, .on 23, .wall, 0⟩, 3600⟩,
   ⟨1972, 1972, ⟨7, .on 16, .wall, 0⟩, 0⟩,
   ⟨1974, 1974, ⟨1, .on 13, .wall, 0⟩, 5400⟩,
   ⟨1974, 1974, ⟨3, .on 10, .wall, 0⟩, 1800⟩,
   ⟨1974, 1974, ⟨9, .on 1, .wall, 0⟩, 0⟩,
   ⟨1974, 1974, ⟨12, .on 22, .wall, 0⟩, 3600⟩,
   ⟨1975, 1975, ⟨3, .on 30, .wall, 0⟩, 0⟩,
   ⟨1976, 1976, ⟨12, .on 19, .wall, 0⟩, 3600⟩,
   ⟨1977, 1977, ⟨3, .on 6, .wall, 0⟩, 0⟩,
   ⟨1977, 1977, ⟨12, .on 4, .wall, 0⟩, 3600⟩,
   ⟨1978, 1979, ⟨3, .onOrAfter .sun 1, .wall, 0⟩, 0⟩,
   ⟨1978, 1978, ⟨12, .on 17, .wall, 0⟩, 3600⟩,
   ⟨1979, 1979, ⟨4, .on 29, .wall, 0⟩, 3600⟩,
   ⟨1980, 1980, ⟨3, .on 16, .wall, 0⟩, 0⟩,
   ⟨1987, 1987, ⟨12, .on 14, .wall, 0⟩, 3600⟩,
   ⟨1988, 1988, ⟨2, .on 28, .wall, 0⟩, 0⟩,
   ⟨1988, 1988, ⟨12, .on 11, .wall, 0⟩, 3600⟩,
   ⟨1989, 1989, ⟨3, .on 5, .wall, 0⟩, 0⟩,
   ⟨1989, 1989, ⟨10, .on 29, .wall, 0⟩, 3600⟩,
   ⟨1990, 1990, ⟨2, .on 25, .wall, 0⟩, 0⟩,
   ⟨1990, 1991, ⟨10, .onOrAfter .sun 21, .wall, 0⟩, 3600⟩,
   ⟨1991, 1992, ⟨3, .onOrAfter .sun 1, .wall, 0⟩, 0⟩,
   ⟨1992, 1992, ⟨10, .on 18, .wall, 0⟩, 3600⟩,
   ⟨1993, 1993, ⟨2, .on 28, .wall, 0⟩, 0⟩,
   ⟨2004, 2004, ⟨9, .on 19, .wall, 0⟩, 3600⟩,
   ⟨2005, 2005, ⟨3, .on 27, .wall, 7200⟩, 0⟩,
   ⟨2005, 2005, ⟨10, .on 9, .wall, 7200⟩, 3600⟩,
   ⟨2006, 2015, ⟨3, .onOrAfter .sun 8, .wall, 7200⟩, 0⟩,
   ⟨2006, 2014, ⟨10, .onOrAfter .sun 1, .wall, 7200⟩, 3600⟩]

def americaZones1 : List (String × List Era) :=
  [("America/Adak",
    [⟨44002, .fixed 0, some (1867, ⟨10, .on 19, .wall, 45875⟩)⟩,
     ⟨-42398, .fixed 0, some (1900, ⟨8, .on 20, .wall, 43200⟩)⟩,
     ⟨-39600, .fixed 0, some (1942, ⟨1, .on 1, .wall, 0⟩)⟩,
     ⟨-39600, .byRules unitedStates, some (1946, ⟨1, .on 1, .wall, 0⟩)⟩,
     ⟨-39600, .fixed 0, some (1967, ⟨4, .on 1, .wall, 0⟩)⟩,
     ⟨-39600, .fixed 0, some (1969, ⟨1, .on 1, .wall, 0⟩)⟩,
     ⟨-39600, .byRules unitedStates, some (1983, ⟨10, .on 30, .wall, 7200⟩)⟩,
     ⟨-36000, .byRules unitedStates, some (1983, ⟨11, .on 30, .wall, 0⟩)⟩,
     ⟨-36000, .byRules unitedStates, none⟩]),
   ("America/Anchorage",
    [⟨50424, .fixed 0, some (1867, ⟨10, .on 19, .wall, 52297⟩)⟩,
     ⟨-35976, .fixed 0, some (1900, ⟨8, .on 20, .wall, 43200⟩)⟩,
     ⟨-36000, .fixed 0, some (1942, ⟨1, .on 1, .wall, 0⟩)⟩,
     ⟨-36000, .byRules unitedStates, some (1967, ⟨4, .on 1, .wall, 0⟩)⟩,
     ⟨-36000, .fixed 0, some (1969, ⟨1, .on 1, .wall, 0⟩)⟩,
     ⟨-36000, .byRules unitedStates, some (1983, ⟨10, .on 30, .wall, 7200⟩)⟩,
     ⟨-32400, .byRules unitedStates, some (1983, ⟨11, .on 30, .wall, 0⟩)⟩,
     ⟨-32400, .byRules unitedStates, none⟩]),
   ("America/Araguaina",
    [⟨-11568, .fixed 0, some (1914, ⟨1, .on 1, .wall, 0⟩)⟩,
     ⟨-10800, .byRules brazil, some (1990, ⟨9, .on 17, .wall, 0⟩)⟩,
     ⟨-10800, .fixed 0, some (1995, ⟨9, .on 14, .wall, 0⟩)⟩,
     ⟨-10800, .byRules brazil, some (2003, ⟨9, .on 24, .wall, 0⟩)⟩,
     ⟨-10800, .fixed 0, some (2012, ⟨10, .on 21, .wall, 0⟩)⟩,
     ⟨-10800, .byRules brazil, some (2013, ⟨9, .on 1, .wall, 0⟩)⟩,
     ⟨-10800, .fixed 0, none⟩]),
   ("America/Argentina/Buenos_Aires",
    [⟨-14028, .fixed 0, some (1894, ⟨10, .on 31, .wall, 0⟩)⟩,
     ⟨-15408, .fixed 0, some (1920, ⟨5, .on 1, .wall, 0⟩)⟩,
     ⟨-14400, .fixed 0, some (1930, ⟨12, .on 1, .wall, 0⟩)⟩,
     ⟨-14400, .byRules argentina, some (1969, ⟨10, .on 5, .wall, 0⟩)⟩,
     ⟨-10800, .byRules argentina, some (1999, ⟨10, .on 3, .wall, 0⟩)⟩,
     ⟨-14400, .byRules argentina, some (2000, ⟨3, .on 3, .wall, 0⟩)⟩,
     ⟨-10800, .byRules argentina, none⟩]),
   ("America/Argentina/Catamarca",
    [⟨-15788, .fixed 0, some (1894, ⟨10, .on 31, .wall, 0⟩)⟩,
     ⟨-15408, .fixed 0, some (1920, ⟨5, .on 1, .wall, 0⟩)⟩,
     ⟨-14400, .fixed 0, some (1930, ⟨12, .on 1, .wall, 0⟩)⟩,
     ⟨-14400, .byRules argentina, some (1969, ⟨10, .on 5, .wall, 0⟩)⟩,
     ⟨-10800, .byRules argentina, some (1991, ⟨3, .on 3, .wall, 0⟩)⟩,
     ⟨-14400, .fixed 0, some (1991, ⟨10, .on 20, .wall, 0⟩)⟩,
     ⟨-10800, .byRules argentina, some (1999, ⟨10, .on 3, .wall, 0⟩)⟩,
     ⟨-14400, .byRules argentina, some (2000, ⟨3, .on 3, .wall, 0⟩)⟩,
     ⟨-10800, .fixed 0, some (2004, ⟨6, .on 1, .wall, 0⟩)⟩,
     ⟨-14400, .fixed 0, some (2004, ⟨6, .on 20, .wall, 0⟩)⟩,
     ⟨-10800, .byRules argentina, some (2008, ⟨10, .on 18, .wall, 0⟩)⟩,
     ⟨-10800, .fixed 0, none⟩]),
   ("America/Argentina/Cordoba",
    [⟨-15408, .fixed 0, some (1894, ⟨10, .on 31, .wall, 0⟩)⟩,
     ⟨-15408, .fixed 0, some (1920, ⟨5, .on 1, .wall, 0⟩)⟩,
     ⟨-14400, .fixed 0, some (1930, ⟨12, .on 1, .wall, 0⟩)⟩,
     ⟨-14400, .byRules argentina, some (1969, ⟨10, .on 5, .wall, 0⟩)⟩,
     ⟨-10800, .byRules argentina, some (1991, ⟨3, .on 3, .wall, 0⟩)⟩,
     ⟨-14400, .fixed 0, some (1991, ⟨10, .on 20, .wall, 0⟩)⟩,
     ⟨-10800, .byRules argentina, some (1999, ⟨10, .on 3, .wall, 0⟩)⟩,
     ⟨-14400, .byRules argentina, some (2000, ⟨3, .on 3, .wall, 0⟩)⟩,
     ⟨-10800, .byRules argentina, none⟩]),
   ("America/Argentina/Jujuy",
    [⟨-15672, .fixed 0, some (1894, ⟨10, .on 31, .wall, 0⟩)⟩,
     ⟨-15408, .fixed 0, some (1920, ⟨5, .on 1, .wall, 0⟩)⟩,
     ⟨-14400, .fixed 0, some (1930, ⟨12, .on 1, .wall, 0⟩)⟩,
     ⟨-14400, .byRules argentina, some (1969, ⟨10, .on 5, .wall, 0⟩)⟩,
     ⟨-10800, .byRules argentina, some (1990, ⟨3, .on 4, .wall, 0⟩)⟩,
     ⟨-14400, .fixed 0, some (1990, ⟨10, .on 28, .wall, 0⟩)⟩,
     ⟨-14400, .fixed 3600, some (1991, ⟨3, .on 17, .wall, 0⟩)⟩,
     ⟨-14400, .fixed 0, some (1991, ⟨10, .on 6, .wall, 0⟩)⟩,
     ⟨-10800, .fixed 3600, some (1992, ⟨1, .on 1, .wall, 0⟩)⟩,
     ⟨-10800, .byRules argentina, some (1999, ⟨10, .on 3, .wall, 0⟩)⟩,
     ⟨-14400, .byRules argentina, some (2000, ⟨3, .on 3, .wall, 0⟩)⟩,
     ⟨-10800, .byRules argentina, some (2008, ⟨10, .on 18, .wall, 0⟩)⟩,
     ⟨-10800, .fixed 0, none⟩]),
   ("America/Argentina/La_Rioja",
    [⟨-16044, .fixed 0, some (1894, ⟨10, .on 31, .wall, 0⟩)⟩,
     ⟨-15408, .fixed 0, some (1920, ⟨5, .on 1, .wall, 0⟩)⟩,
     ⟨-14400, .fixed 0, some (1930, ⟨12, .on 1, .wall, 0⟩)⟩,
     ⟨-14400, .byRules argentina, some (1969, ⟨10, .on 5, .wall, 0⟩)⟩,
     ⟨-10800, .byRules argentina, some (1991, ⟨3, .on 1, .wall, 0⟩)⟩,
     ⟨-14400, .fixed 0, some (1991, ⟨5, .on 7, .wall, 0⟩)⟩,
     ⟨-10800, .byRules argentina, some (1999, ⟨10, .on 3, .wall, 0⟩)⟩,
     ⟨-14400, .byRules argentina, some (2000, ⟨3, .on 3, .wall, 0⟩)⟩,
     ⟨-10800, .fixed 0, some (2004, ⟨6, .on 1, .wall, 0⟩)⟩,
     ⟨-14400, .fixed 0, some (2004, ⟨6, .on 20, .wall, 0⟩)⟩,
     ⟨-10800, .byRules argentina, some (2008, ⟨10, .on 18, .wall, 0⟩)⟩,
     ⟨-10800, .fixed 0, none⟩]),
   ("America/Argentina/Mendoza",
    [⟨-16516, .fixed 0, some (1894, ⟨10, .on 31, .wall, 0⟩)⟩,
     ⟨-15408, .fixed 0, some (1920, ⟨5, .on 1, .wall, 0⟩)⟩,
     ⟨-14400, .fixed 0, some (1930, ⟨12, .on 1, .wall, 0⟩)⟩,
     ⟨-14400, .byRules argentina, some (1969, ⟨10, .on 5, .wall, 0⟩)⟩,
     ⟨-10800, .byRules argentina, some (1990, ⟨3, .on 4, .wall, 0⟩)⟩,
     ⟨-14400, .fixed 0, some (1990, ⟨10, .on 15, .wall, 0⟩)⟩,
     ⟨-14400, .fixed 3600, some (1991, ⟨3, .on 1, .wall, 0⟩)⟩,
     ⟨-14400, .fixed 0, some (1991, ⟨10, .on 15, .wall, 0⟩)⟩,
     ⟨-14400, .fixed 3600, some (1992, ⟨3, .on 1, .wall, 0⟩)⟩,
     ⟨-14400, .fixed 0, some (1992, ⟨10, .on 18, .wall, 0⟩)⟩,
     ⟨-10800, .byRules argentina, some (1999, ⟨10, .on 3, .wall, 0⟩)⟩,
     ⟨-14400, .byRules argentina, some (2000, ⟨3, .on 3, .wall, 0⟩)⟩,
     ⟨-10800, .fixed 0, some (2004, ⟨5, .on 23, .wall, 0⟩)⟩,
     ⟨-14400, .fixed 0, some (2004, ⟨9, .on 26, .wall, 0⟩)⟩,
     ⟨-10800, .byRules argentina, some (2008, ⟨10, .on 18, .wall, 0⟩)⟩,
     ⟨-10800, .fixed 0, none⟩]),
   ("America/Argentina/Rio_Gallegos",
    [⟨-16612, .fixed 0, some (1894, ⟨10, .on 31, .wall, 0⟩)⟩,
     ⟨-15408, .fixed 0, some (1920, ⟨5, .on 1, .wall, 0⟩)⟩,
     ⟨-14400, .fixed 0, some (1930, ⟨12, .on 1, .wall, 0⟩)⟩,
     ⟨-14400, .byRules argentina, some (1969, ⟨10, .on 5, .wall, 0⟩)⟩,
     ⟨-10800, .byRules argentina, some (1999, ⟨10, .on 3, .wall, 0⟩)⟩,
     ⟨-14400, .byRules argentina, some (2000, ⟨3, .on 3, .wall, 0⟩)⟩,
     ⟨-10800, .fixed 0, some (2004, ⟨6, .on 1, .wall, 0⟩)⟩,
     ⟨-14400, .fixed 0, some (2004, ⟨6, .on 20, .wall, 0⟩)⟩,
     ⟨-10800, .byRules argentina, some (2008, ⟨10, .on 18, .wall, 0⟩)⟩,
     ⟨-10800, .fixed 0, none⟩]),
   ("America/Argentina/Salta",
    [⟨-15700, .fixed 0, some (1894, ⟨10, .on 31, .wall, 0⟩)⟩,
     ⟨-15408, .fixed 0, some (1920, ⟨5, .on 1, .wall, 0⟩)⟩,
     ⟨-14400, .fixed 0, some (1930, ⟨12, .on 1, .wall, 0⟩)⟩,
     ⟨-14400, .byRules argentina, some (1969, ⟨10, .on 5, .wall, 0⟩)⟩,
     ⟨-10800, .byRules argentina, some (1991, ⟨3, .on 3, .wall, 0⟩)⟩,
     ⟨-14400, .fixed 0, some (1991, ⟨10, .on 20, .wall, 0⟩)⟩,
     ⟨-10800, .byRules argentina, some (1999, ⟨10, .on 3, .wall, 0⟩)⟩,
     ⟨-14400, .byRules argentina, some (2000, ⟨3, .on 3, .wall, 0⟩)⟩,
     ⟨-10800, .byRules argentina, some (2008, ⟨10, .on 18, .wall, 0⟩)⟩,
     ⟨-10800, .fixed 0, none⟩]),
   ("America/Argentina/San_Juan",
    [⟨-16444, .fixed 0, some (1894, ⟨10, .on 31, .wall, 0⟩)⟩,
     ⟨-15408, .fixed 0, some (1920, ⟨5, .on 1, .wall, 0⟩)⟩,
     ⟨-14400, .fixed 0, some (1930, ⟨12, .on 1, .wall, 0⟩)⟩,
     ⟨-14400, .byRules argentina, some (1969, ⟨10, .on 5, .wall, 0⟩)⟩,
     ⟨-10800, .byRules argentina, some (1991, ⟨3, .on 1, .wall, 0⟩)⟩,
     ⟨-14400, .fixed 0, some (1991, ⟨5, .on 7, .wall, 0⟩)⟩,
     ⟨-10800, .byRules argentina, some (1999, ⟨10, .on 3, .wall, 0⟩)⟩,
     ⟨-14400, .byRules argentina, some (2000, ⟨3, .on 3, .wall, 0⟩)⟩,
     ⟨-10800, .fixed 0, some (2004, ⟨5, .on 31, .wall, 0⟩)⟩,
     ⟨-14400, .fixed 0, some (2004, ⟨7, .on 25, .wall, 0⟩)⟩,
     ⟨-10800, .byRules argentina, some (2008, ⟨10, .on 18, .wall, 0⟩)⟩,
     ⟨-10800, .fixed 0, none⟩]),
   ("America/Argentina/San_Luis",
    [⟨-15924, .fixed 0, some (1894, ⟨10, .on 31, .wall, 0⟩)⟩,
     ⟨-15408, .fixed 0, some (1920, ⟨5, .on 1, .wall, 0⟩)⟩,
     ⟨-14400, .fixed 0, some (1930, ⟨12, .on 1, .wall, 0⟩)⟩,
     ⟨-14400, .byRules argentina, some (1969, ⟨10, .on 5, .wall, 0⟩)⟩,
     ⟨-10800, .byRules argentina, some (1990, ⟨1, .on 1, .wall, 0⟩)⟩,
     ⟨-10800, .fixed 3600, some (1990, ⟨3, .on 14, .wall, 0⟩)⟩,
     ⟨-14400, .fixed 0, some (1990, ⟨10, .on 15, .wall, 0⟩)⟩,
     ⟨-14400, .fixed 3600, some (1991, ⟨3, .on 1, .wall, 0⟩)⟩,
     ⟨-14400, .fixed 0, some (1991, ⟨6, .on 1, .wall, 0⟩)⟩,
     ⟨-10800, .fixed 0, some (1999, ⟨10, .on 3, .wall, 0⟩)⟩,
     ⟨-14400, .fixed 3600, some (2000, ⟨3, .on 3, .wall, 0⟩)⟩,
     ⟨-10800, .fixed 0, some (2004, ⟨5, .on 31, .wall, 0⟩)⟩,
     ⟨-14400, .fixed 0, some (2004, ⟨7, .on 25, .wall, 0⟩)⟩,
     ⟨-10800, .byRules argentina, some (2008, ⟨1, .on 21, .wall, 0⟩)⟩,
     ⟨-14400, .byRules sanLuis, some (2009, ⟨10, .on 11, .wall, 0⟩)⟩,
     ⟨-10800, .fixed 0, none⟩]),
   ("America/Argentina/Tucuman",
    [⟨-15652, .fixed 0, some (1894, ⟨10, .on 31, .wall, 0⟩)⟩,
     ⟨-15408, .fixed 0, some (1920, ⟨5, .on 1, .wall, 0⟩)⟩,
     ⟨-14400, .fixed 0, some (1930, ⟨12, .on 1, .wall, 0⟩)⟩,
     ⟨-14400, .byRules argentina, some (1969, ⟨10, .on 5, .wall, 0⟩)⟩,
     ⟨-10800, .byRules argentina, some (1991, ⟨3, .on 3, .wall, 0⟩)⟩,
     ⟨-14400, .fixed 0, some (1991, ⟨10, .on 20, .wall, 0⟩)⟩,
     ⟨-10800, .byRules argentina, some (1999, ⟨10, .on 3, .wall, 0⟩)⟩,
     ⟨-14400, .byRules argentina, some (2000, ⟨3, .on 3, .wall, 0⟩)⟩,
     ⟨-10800, .fixed 0, some (2004, ⟨6, .on 1, .wall, 0⟩)⟩,
     ⟨-14400, .fixed 0, some (2004, ⟨6, .on 13, .wall, 0⟩)⟩,
     ⟨-10800, .byRules argentina, none⟩]),
   ("America/Argentina/Ushuaia",
    [⟨-16392, .fixed 0, some (1894, ⟨10, .on 31, .wall, 0⟩)⟩,
     ⟨-15408, .fixed 0, some (1920, ⟨5, .on 1, .wall, 0⟩)⟩,
     ⟨-14400, .fixed 0, some (1930, ⟨12, .on 1, .wall, 0⟩)⟩,
     ⟨-14400, .byRules argentina, some (1969, ⟨10, .on 5, .wall, 0⟩)⟩,
     ⟨-10800, .byRules argentina, some (1999, ⟨10, .on 3, .wall, 0⟩)⟩,
     ⟨-14400, .byRules argentina, some (2000, ⟨3, .on 3, .wall, 0⟩)⟩,
     ⟨-10800, .fixed 0, some (2004, ⟨5, .on 30, .wall, 0⟩)⟩,
     ⟨-14400, .fixed 0, some (2004, ⟨6, .on 20, .wall, 0⟩)⟩,
     ⟨-10800, .byRules argentina, some (2008, ⟨10, .on 18, .wall, 0⟩)⟩,
     ⟨-10800, .fixed 0, none⟩]),
   ("America/Asuncion",
    [⟨-13840, .fixed 0, some (1890, ⟨1, .on 1, .wall, 0⟩)⟩,
     ⟨-13840, .fixed 0, some (1931, ⟨10, .on 10, .wall, 0⟩)⟩,
     ⟨-14400, .fixed 0, some (1972, ⟨10, .on 1, .wall, 0⟩)⟩,
     ⟨-10800, .fixed 0, some (1974, ⟨4, .on 1, .wall, 0⟩)⟩,
     ⟨-14400, .byRules paraguay, some (2024, ⟨10, .on 15, .wall, 0⟩)⟩,
     ⟨-10800, .fixed 0, none⟩]),
   ("America/Bahia",
    [⟨-9244, .fixed 0, some (1914, ⟨1, .on 1, .wall, 0⟩)⟩,
     ⟨-10800, .byRules brazil, some (2003, ⟨9, .on 24, .wall, 0⟩)⟩,
     ⟨-10800, .fixed 0, some (2011, ⟨10, .on 16, .wall, 0⟩)⟩,
     ⟨-10800, .byRules brazil, some (2012, ⟨10, .on 21, .wall, 0⟩)⟩,
     ⟨-10800, .fixed 0, none⟩]),
   ("America/Bahia_Banderas",
    [⟨-25260, .fixed 0, some (1922, ⟨1, .on 1, .universal, 25200⟩)⟩,
     ⟨-25200, .fixed 0, some (1927, ⟨6, .on 10, .wall, 0⟩)⟩,
     ⟨-21600, .fixed 0, some (1930, ⟨11, .on 15, .wall, 0⟩)⟩,
     ⟨-25200, .byRules mexico, some (1932, ⟨4, .on 1, .wall, 0⟩)⟩,
     ⟨-21600, .fixed 0, some (1942, ⟨4, .on 24, .wall, 0⟩)⟩,
     ⟨-25200, .fixed 0, some (1970, ⟨1, .on 1, .wall, 0⟩)⟩,
     ⟨-25200, .byRules mexico, some (2010, ⟨4, .on 4, .wall, 7200⟩)⟩,
     ⟨-21600, .byRules mexico, none⟩]),
   ("America/Barbados",
    [⟨-14309, .fixed 0, some (1911, ⟨8, .on 28, .wall, 0⟩)⟩,
     ⟨-14400, .byRules barbados, some (1944, ⟨1, .on 1, .wall, 0⟩)⟩,
     ⟨-14400, .byRules barbados, some (1945, ⟨1, .on 1, .wall, 0⟩)⟩,
     ⟨-14400, .byRules barbados, none⟩]),
   ("America/Belem",
    [⟨-11636, .fixed 0, some (1914, ⟨1, .on 1, .wall, 0⟩)⟩,
     ⟨-10800, .byRules brazil, some (1988, ⟨9, .on 12, .wall, 0⟩)⟩,
     ⟨-10800, .fixed 0, none⟩]),
   ("America/Belize",
    [⟨-21168, .fixed 0, some (1912, ⟨4, .on 1, .wall, 0⟩)⟩,
     ⟨-21600, .byRules belize, none⟩]),
   ("America/Boa_Vista",
    [⟨-14560, .fixed 0, some (1914, ⟨1, .on 1, .wall, 0⟩)⟩,
     ⟨-14400, .byRules brazil, some (1988, ⟨9, .on 12, .wall, 0⟩)⟩,
     ⟨-14400, .fixed 0, some (1999, ⟨9, .on 30, .wall, 0⟩)⟩,
     ⟨-14400, .byRules brazil, some (2000, ⟨10, .on 15, .wall, 0⟩)⟩,
     ⟨-14400, .fixed 0, none⟩]),
   ("America/Bogota",
    [⟨-17776, .fixed 0, some (1884, ⟨3, .on 13, .wall, 0⟩)⟩,
     ⟨-17776, .fixed 0, some (1914, ⟨11, .on 23, .wall, 0⟩)⟩,
     ⟨-18000, .byRules colombia, none⟩]),
   ("America/Boise",
    [⟨-27889, .fixed 0, some (1883, ⟨11, .on 18, .universal, 72000⟩)⟩,
     ⟨-28800, .byRules unitedStates, some (1923, ⟨5, .on 13, .wall, 7200⟩)⟩,
     ⟨-25200, .byRules unitedStates, some (1974, ⟨1, .on 1, .wall, 0⟩)⟩,
     ⟨-25200, .fixed 0, some (1974, ⟨2, .on 3, .wall, 7200⟩)⟩,
     ⟨-25200, .byRules unitedStates, none⟩]),
   ("America/Cambridge_Bay",
    [⟨0, .fixed 0, some (1920, ⟨1, .on 1, .wall, 0⟩)⟩,
     ⟨-25200, .byRules northwestTerritories, some (1999, ⟨10, .on 31, .wall, 7200⟩)⟩,
     ⟨-21600, .byRules canada, some (2000, ⟨10, .on 29, .wall, 7200⟩)⟩,
     ⟨-18000, .fixed 0, some (2000, ⟨11, .on 5, .wall, 0⟩)⟩,
     ⟨-21600, .fixed 0, some (2001, ⟨4, .on 1, .wall, 10800⟩)⟩,
     ⟨-25200, .byRules canada, none⟩]),
   ("America/Campo_Grande",
    [⟨-13108, .fixed 0, some (1914, ⟨1, .on 1, .wall, 0⟩)⟩,
     ⟨-14400, .byRules brazil, none⟩]),
   ("America/Cancun",
    [⟨-20824, .fixed 0, some (1922, ⟨1, .on 1, .universal, 21600⟩)⟩,
     ⟨-21600, .fixed 0, some (1981, ⟨12, .on 26, .wall, 7200⟩)⟩,
     ⟨-18000, .fixed 0, some (1983, ⟨1, .on 4, .wall, 0⟩)⟩,
     ⟨-21600, .byRules mexico, some (1997, ⟨10, .on 26, .wall, 7200⟩)⟩,
     ⟨-18000, .byRules mexico, some (1998, ⟨8, .on 2, .wall, 7200⟩)⟩,
     ⟨-21600, .byRules mexico, some (2015, ⟨2, .on 1, .wall, 7200⟩)⟩,
     ⟨-18000, .fixed 0, none⟩]),
   ("America/Caracas",
    [⟨-16064, .fixed 0, some (1890, ⟨1, .on 1, .wall, 0⟩)⟩,
     ⟨-16060, .fixed 0, some (1912, ⟨2, .on 12, .wall, 0⟩)⟩,
     ⟨-16200, .fixed 0, some (1965, ⟨1, .on 1, .wall, 0⟩)⟩,
     ⟨-14400, .fixed 0, some (2007, ⟨12, .on 9, .wall, 10800⟩)⟩,
     ⟨-16200, .fixed 0, some (2016, ⟨5, .on 1, .wall, 9000⟩)⟩,
     ⟨-14400, .fixed 0, none⟩]),
   ("America/Cayenne",
    [⟨-12560, .fixed 0, some (1911, ⟨7, .on 1, .wall, 0⟩)⟩,
     ⟨-14400, .fixed 0, some (1967, ⟨10, .on 1, .wall, 0⟩)⟩,
     ⟨-10800, .fixed 0, none⟩]),
   ("America/Chicago",
    [⟨-21036, .fixed 0, some (1883, ⟨11, .on 18, .universal, 64800⟩)⟩,
     ⟨-21600, .byRules unitedStates, some (1920, ⟨1, .on 1, .wall, 0⟩)⟩,
     ⟨-21600, .byRules chicago, some (1936, ⟨3, .on 1, .wall, 7200⟩)⟩,
     ⟨-18000, .fixed 0, some (1936, ⟨11, .on 15, .wall, 7200⟩)⟩,
     ⟨-21600, .byRules chicago, some (1942, ⟨1, .on 1, .wall, 0⟩)⟩,
     ⟨-21600, .byRules unitedStates, some (1946, ⟨1, .on 1, .wall, 0⟩)⟩,
     ⟨-21600, .byRules chicago, some (1967, ⟨1, .on 1, .wall, 0⟩)⟩,
     ⟨-21600, .byRules unitedStates, none⟩]),
   ("America/Chihuahua",
    [⟨-25460, .fixed 0, some (1922, ⟨1, .on 1, .universal, 25200⟩)⟩,
     ⟨-25200, .fixed 0, some (1927, ⟨6, .on 10, .wall, 0⟩)⟩,
     ⟨-21600, .fixed 0, some (1930, ⟨11, .on 15, .wall, 0⟩)⟩,
     ⟨-25200, .byRules mexico, some (1932, ⟨4, .on 1, .wall, 0⟩)⟩,
     ⟨-21600, .fixed 0, some (1996, ⟨1, .on 1, .wall, 0⟩)⟩,
     ⟨-21600, .byRules mexico, some (1998, ⟨1, .on 1, .wall, 0⟩)⟩,
     ⟨-21600, .fixed 0, some (1998, ⟨4, .onOrAfter .sun 1, .wall, 10800⟩)⟩,
     ⟨-25200, .byRules mexico, some (2022, ⟨10, .on 30, .wall, 7200⟩)⟩,
     ⟨-21600, .fixed 0, none⟩]),
   ("America/Ciudad_Juarez",
    [⟨-25556, .fixed 0, some (1922, ⟨1, .on 1, .universal, 25200⟩)⟩,
     ⟨-25200, .fixed 0, some (1927, ⟨6, .on 10, .wall, 0⟩)⟩,
     ⟨-21600, .fixed 0, some (1930, ⟨11, .on 15, .wall, 0⟩)⟩,
     ⟨-25200, .byRules mexico, some (1932, ⟨4, .on 1, .wall, 0⟩)⟩,
     ⟨-21600, .fixed 0, some (1996, ⟨1, .on 1, .wall, 0⟩)⟩,
     ⟨-21600, .byRules mexico, some (1998, ⟨1, .on 1, .wall, 0⟩)⟩,
     ⟨-21600, .fixed 0, some (1998, ⟨4, .onOrAfter .sun 1, .wall, 10800⟩)⟩,
     ⟨-25200, .byRules mexico, some (2010, ⟨1, .on 1, .wall, 0⟩)⟩,
     ⟨-25200, .byRules unitedStates, some (2022, ⟨10, .on 30, .wall, 7200⟩)⟩,
     ⟨-21600, .fixed 0, some (2022, ⟨11, .on 30, .wall, 0⟩)⟩,
     ⟨-25200, .byRules unitedStates, none⟩]),
   ("America/Costa_Rica",
    [⟨-20173, .fixed 0, some (1890, ⟨1, .on 1, .wall, 0⟩)⟩,
     ⟨-20173, .fixed 0, some (1921, ⟨1, .on 15, .wall, 0⟩)⟩,
     ⟨-21600, .byRules costaRica, none⟩]),
   ("America/Coyhaique",
    [⟨-17296, .fixed 0, some (1890, ⟨1, .on 1, .wall, 0⟩)⟩,
     ⟨-16965, .fixed 0, some (1910, ⟨1, .on 10, .wall, 0⟩)⟩,
     ⟨-18000, .fixed 0, some (1916, ⟨7, .on 1, .wall, 0⟩)⟩,
     ⟨-16965, .fixed 0, some (1918, ⟨9, .on 10, .wall, 0⟩)⟩,
     ⟨-14400, .fixed 0, some (1919, ⟨7, .on 1, .wall, 0⟩)⟩,
     ⟨-16965, .fixed 0, some (1927, ⟨9, .on 1, .wall, 0⟩)⟩,
     ⟨-18000, .byRules chile, some (1932, ⟨9, .on 1, .wall, 0⟩)⟩,
     ⟨-14400, .fixed 0, some (1942, ⟨6, .on 1, .wall, 0⟩)⟩,
     ⟨-18000, .fixed 0, some (1942, ⟨8, .on 1, .wall, 0⟩)⟩,
     ⟨-14400, .fixed 0, some (1946, ⟨8, .on 28, .wall, 86400⟩)⟩,
     ⟨-18000, .fixed 3600, some (1947, ⟨3, .on 31, .wall, 86400⟩)⟩,
     ⟨-18000, .fixed 0, some (1947, ⟨5, .on 21, .wall, 82800⟩)⟩,
     ⟨-14400, .byRules chile, some (2025, ⟨3, .on 20, .wall, 0⟩)⟩,
     ⟨-10800, .fixed 0, none⟩]),
   ("America/Cuiaba",
    [⟨-13460, .fixed 0, some (1914, ⟨1, .on 1, .wall, 0⟩)⟩,
     ⟨-14400, .byRules brazil, some (2003, ⟨9, .on 24, .wall, 0⟩)⟩,
     ⟨-14400, .fixed 0, some (2004, ⟨10, .on 1, .wall, 0⟩)⟩,
     ⟨-14400, .byRules brazil, none⟩]),
   ("America/Danmarkshavn",
    [⟨-4480, .fixed 0, some (1916, ⟨7, .on 28, .wall, 0⟩)⟩,
     ⟨-10800, .fixed 0, some (1980, ⟨4, .on 6, .wall, 7200⟩)⟩,
     ⟨-10800, .byRules europeanUnion, some (1996, ⟨1, .on 1, .wall, 0⟩)⟩,
     ⟨0, .fixed 0, none⟩]),
   ("America/Dawson",
    [⟨-33460, .fixed 0, some (1900, ⟨8, .on 20, .wall, 0⟩)⟩,
     ⟨-32400, .byRules northwestTerritories, some (1965, ⟨1, .on 1, .wall, 0⟩)⟩,
     ⟨-32400, .byRules yukon, some (1973, ⟨10, .on 28, .wall, 0⟩)⟩,
     ⟨-28800, .fixed 0, some (1980, ⟨1, .on 1, .wall, 0⟩)⟩,
     ⟨-28800, .byRules canada, some (2020, ⟨11, .on 1, .wall, 0⟩)⟩,
     ⟨-25200, .fixed 0, none⟩]),
   ("America/Dawson_Creek",
    [⟨-28856, .fixed 0, some (1884, ⟨1, .on 1, .wall, 0⟩)⟩,
     ⟨-28800, .byRules canada, some (1947, ⟨1, .on 1, .wall, 0⟩)⟩,
     ⟨-28800, .byRules vancouver, some (1972, ⟨8, .on 30, .wall, 7200⟩)⟩,
     ⟨-25200, .fixed 0, none⟩]),
   ("America/Denver",
    [⟨-25196, .fixed 0, some (1883, ⟨11, .on 18, .universal, 68400⟩)⟩,
     ⟨-25200, .byRules unitedStates, some (1920, ⟨1, .on 1, .wall, 0⟩)⟩,
     ⟨-25200, .byRules denver, some (1942, ⟨1, .on 1, .wall, 0⟩)⟩,
     ⟨-25200, .byRules unitedStates, some (1946, ⟨1, .on 1, .wall, 0⟩)⟩,
     ⟨-25200, .byRules denver, some (1967, ⟨1, .on 1, .wall, 0⟩)⟩,
     ⟨-25200, .byRules unitedStates, none⟩]),
   ("America/Detroit",
    [⟨-19931, .fixed 0, some (1905, ⟨1, .on 1, .wall, 0⟩)⟩,
     ⟨-21600, .fixed 0, some (1915, ⟨5, .on 15, .wall, 7200⟩)⟩,
     ⟨-18000, .fixed 0, some (1942, ⟨1, .on 1, .wall, 0⟩)⟩,
     ⟨-18000, .byRules unitedStates, some (1946, ⟨1, .on 1, .wall, 0⟩)⟩,
     ⟨-18000, .byRules detroit, some (1967, ⟨6, .on 14, .wall, 60⟩)⟩,
     ⟨-18000, .byRules unitedStates, some (1969, ⟨1, .on 1, .wall, 0⟩)⟩,
     ⟨-18000, .fixed 0, some (1973, ⟨1, .on 1, .wall, 0⟩)⟩,
     ⟨-18000, .byRules unitedStates, some (1975, ⟨1, .on 1, .wall, 0⟩)⟩,
     ⟨-18000, .fixed 0, some (1975, ⟨4, .on 27, .wall, 7200⟩)⟩,
     ⟨-18000, .byRules unitedStates, none⟩])]

def americaZones2 : List (String × List Era) :=
  [("America/Edmonton",
    [⟨-27232, .fixed 0, some (1906, ⟨9, .on 1, .wall, 0⟩)⟩,
     ⟨-25200, .byRules edmonton, some (1987, ⟨1, .on 1, .wall, 0⟩)⟩,
     ⟨-25200, .byRules canada, none⟩]),
   ("America/Eirunepe",
    [⟨-16768, .fixed 0, some (1914, ⟨1, .on 1, .wall, 0⟩)⟩,
     ⟨-18000, .byRules brazil, some (1988, ⟨9, .on 12, .wall, 0⟩)⟩,
     ⟨-18000, .fixed 0, some (1993, ⟨9, .on 28, .wall, 0⟩)⟩,
     ⟨-18000, .byRules brazil, some (1994, ⟨9, .on 22, .wall, 0⟩)⟩,
     ⟨-18000, .fixed 0, some (2008, ⟨6, .on 24, .wall, 0⟩)⟩,
     ⟨-14400, .fixed 0, some (2013, ⟨11, .on 10, .wall, 0⟩)⟩,
     ⟨-18000, .fixed 0, none⟩]),
   ("America/El_Salvador",
    [⟨-21408, .fixed 0, some (1921, ⟨1, .on 1, .wall, 0⟩)⟩,
     ⟨-21600, .byRules salvador, none⟩]),
   ("America/Fort_Nelson",
    [⟨-29447, .fixed 0, some (1884, ⟨1, .on 1, .wall, 0⟩)⟩,
     ⟨-28800, .byRules vancouver, some (1946, ⟨1, .on 1, .wall, 0⟩)⟩,
     ⟨-28800, .fixed 0, some (1947, ⟨1, .on 1, .wall, 0⟩)⟩,
     ⟨-28800, .byRules vancouver, some (1987, ⟨1, .on 1, .wall, 0⟩)⟩,
     ⟨-28800, .byRules canada, some (2015, ⟨3, .on 8, .wall, 7200⟩)⟩,
     ⟨-25200, .fixed 0, none⟩]),
   ("America/Fortaleza",
    [⟨-9240, .fixed 0, some (1914, ⟨1, .on 1, .wall, 0⟩)⟩,
     ⟨-10800, .byRules brazil, some (1990, ⟨9, .on 17, .wall, 0⟩)⟩,
     ⟨-10800, .fixed 0, some (1999, ⟨9, .on 30, .wall, 0⟩)⟩,
     ⟨-10800, .byRules brazil, some (2000, ⟨10, .on 22, .wall, 0⟩)⟩,
     ⟨-10800, .fixed 0, some (2001, ⟨9, .on 13, .wall, 0⟩)⟩,
     ⟨-10800, .byRules brazil, some (2002, ⟨10, .on 1, .wall, 0⟩)⟩,
     ⟨-10800, .fixed 0, none⟩]),
   ("America/Glace_Bay",
    [⟨-14388, .fixed 0, some (1902, ⟨6, .on 15, .wall, 0⟩)⟩,
     ⟨-14400, .byRules canada, some (1953, ⟨1, .on 1, .wall, 0⟩)⟩,
     ⟨-14400, .byRules halifax, some (1954, ⟨1, .on 1, .wall, 0⟩)⟩,
     ⟨-14400, .fixed 0, some (1972, ⟨1, .on 1, .wall, 0⟩)⟩,
     ⟨-14400, .byRules halifax, some (1974, ⟨1, .on 1, .wall, 0⟩)⟩,
     ⟨-14400, .byRules canada, none⟩]),
   ("America/Goose_Bay",
    [⟨-14500, .fixed 0, some (1884, ⟨1, .on 1, .wall, 0⟩)⟩,
     ⟨-12652, .fixed 0, some (1918, ⟨1, .on 1, .wall, 0⟩)⟩,
     ⟨-12652, .byRules canada, some (1919, ⟨1, .on 1, .wall, 0⟩)⟩,
     ⟨-12652, .fixed 0, some (1935, ⟨3, .on 30, .wall, 0⟩)⟩,
     ⟨-12600, .fixed 0, some (1936, ⟨1, .on 1, .wall, 0⟩)⟩,
     ⟨-12600, .byRules stJohns, some (1942, ⟨5, .on 11, .wall, 0⟩)⟩,
     ⟨-12600, .byRules canada, some (1946, ⟨1, .on 1, .wall, 0⟩)⟩,
     ⟨-12600, .byRules stJohns, some (1966, ⟨3, .on 15, .wall, 7200⟩)⟩,
     ⟨-14400, .byRules stJohns, some (2011, ⟨11, .on 1, .wall, 0⟩)⟩,
     ⟨-14400, .byRules canada, none⟩]),
   ("America/Grand_Turk",
    [⟨-17072, .fixed 0, some (1890, ⟨1, .on 1, .wall, 0⟩)⟩,
     ⟨-18430, .fixed 0, some (1912, ⟨2, .on 1, .wall, 0⟩)⟩,
     ⟨-18000, .fixed 0, some (1979, ⟨1, .on 1, .wall, 0⟩)⟩,
     ⟨-18000, .byRules unitedStates, some (2015, ⟨3, .on 8, .wall, 7200⟩)⟩,
     ⟨-14400, .fixed 0, some (2018, ⟨3, .on 11, .wall, 10800⟩)⟩,
     ⟨-18000, .byRules unitedStates, none⟩]),
   ("America/Guatemala",
    [⟨-21724, .fixed 0, some (1918, ⟨10, .on 5, .wall, 0⟩)⟩,
     ⟨-21600, .byRules guatemala, none⟩]),
   ("America/Guayaquil",
    [⟨-19160, .fixed 0, some (1890, ⟨1, .on 1, .wall, 0⟩)⟩,
     ⟨-18840, .fixed 0, some (1931, ⟨1, .on 1, .wall, 0⟩)⟩,
     ⟨-18000, .byRules ecuador, none⟩]),
   ("America/Guyana",
    [⟨-13959, .fixed 0, some (1911, ⟨8, .on 1, .wall, 0⟩)⟩,
     ⟨-14400, .fixed 0, some (1915, ⟨3, .on 1, .wall, 0⟩)⟩,
     ⟨-13500, .fixed 0, some (1975, ⟨8, .on 1, .wall, 0⟩)⟩,
     ⟨-10800, .fixed 0, some (1992, ⟨3, .on 29, .wall, 3600⟩)⟩,
     ⟨-14400, .fixed 0, none⟩]),
   ("America/Halifax",
    [⟨-15264, .fixed 0, some (1902, ⟨6, .on 15, .wall, 0⟩)⟩,
     ⟨-14400, .byRules halifax, some (1918, ⟨1, .on 1, .wall, 0⟩)⟩,
     ⟨-14400, .byRules canada, some (1919, ⟨1, .on 1, .wall, 0⟩)⟩,
     ⟨-14400, .byRules halifax, some (1942, ⟨2, .on 9, .standard, 7200⟩)⟩,
     ⟨-14400, .byRules canada, some (1946, ⟨1, .on 1, .wall, 0⟩)⟩,
     ⟨-14400, .byRules halifax, some (1974, ⟨1, .on 1, .wall, 0⟩)⟩,
     ⟨-14400, .byRules canada, none⟩]),
   ("America/Havana",
    [⟨-19768, .fixed 0, some (1890, ⟨1, .on 1, .wall, 0⟩)⟩,
     ⟨-19776, .fixed 0, some (1925, ⟨7, .on 19, .wall, 43200⟩)⟩,
     ⟨-18000, .byRules cuba, none⟩]),
   ("America/Hermosillo",
    [⟨-26632, .fixed 0, some (1922, ⟨1, .on 1, .universal, 25200⟩)⟩,
     ⟨-25200, .fixed 0, some (1927, ⟨6, .on 10, .wall, 0⟩)⟩,
     ⟨-21600, .fixed 0, some (1930, ⟨11, .on 15, .wall, 0⟩)⟩,
     ⟨-25200, .byRules mexico, some (1932, ⟨4, .on 1, .wall, 0⟩)⟩,
     ⟨-21600, .fixed 0, some (1942, ⟨4, .on 24, .wall, 0⟩)⟩,
     ⟨-25200, .fixed 0, some (1996, ⟨1, .on 1, .wall, 0⟩)⟩,
     ⟨-25200, .byRules mexico, some (1999, ⟨1, .on 1, .wall, 0⟩)⟩,
     ⟨-25200, .fixed 0, none⟩]),
   ("America/Indiana/Indianapolis",
    [⟨-20678, .fixed 0, some (1883, ⟨11, .on 18, .universal, 64800⟩)⟩,
     ⟨-21600, .byRules unitedStates, some (1920, ⟨1, .on 1, .wall, 0⟩)⟩,
     ⟨-21600, .byRules indianapolis, some (1942, ⟨1, .on 1, .wall, 0⟩)⟩,
     ⟨-21600, .byRules unitedStates, some (1946, ⟨1, .on 1, .wall, 0⟩)⟩,
     ⟨-21600, .byRules indianapolis, some (1955, ⟨4, .on 24, .wall, 7200⟩)⟩,
     ⟨-18000, .fixed 0, some (1957, ⟨9, .on 29, .wall, 7200⟩)⟩,
     ⟨-21600, .fixed 0, some (1958, ⟨4, .on 27, .wall, 7200⟩)⟩,
     ⟨-18000, .fixed 0, some (1969, ⟨1, .on 1, .wall, 0⟩)⟩,
     ⟨-18000, .byRules unitedStates, some (1971, ⟨1, .on 1, .wall, 0⟩)⟩,
     ⟨-18000, .fixed 0, some (2006, ⟨1, .on 1, .wall, 0⟩)⟩,
     ⟨-18000, .byRules unitedStates, none⟩]),
   ("America/Indiana/Knox",
    [⟨-20790, .fixed 0, some (1883, ⟨11, .on 18, .universal, 64800⟩)⟩,
     ⟨-21600, .byRules unitedStates, some (1947, ⟨1, .on 1, .wall, 0⟩)⟩,
     ⟨-21600, .byRules starke, some (1962, ⟨4, .on 29, .wall, 7200⟩)⟩,
     ⟨-18000, .fixed 0, some (1963, ⟨10, .on 27, .wall, 7200⟩)⟩,
     ⟨-21600, .byRules unitedStates, some (1991, ⟨10, .on 27, .wall, 7200⟩)⟩,
     ⟨-18000, .fixed 0, some (2006, ⟨4, .on 2, .wall, 7200⟩)⟩,
     ⟨-21600, .byRules unitedStates, none⟩]),
   ("America/Indiana/Marengo",
    [⟨-20723, .fixed 0, some (1883, ⟨11, .on 18, .universal, 64800⟩)⟩,
     ⟨-21600, .byRules unitedStates, some (1951, ⟨1, .on 1, .wall, 0⟩)⟩,
     ⟨-21600, .byRules marengo, some (1961, ⟨4, .on 30, .wall, 7200⟩)⟩,
     ⟨-18000, .fixed 0, some (1969, ⟨1, .on 1, .wall, 0⟩)⟩,
     ⟨-18000, .byRules unitedStates, some (1974, ⟨1, .on 6, .wall, 7200⟩)⟩,
     ⟨-21600, .fixed 3600, some (1974, ⟨10, .on 27, .wall, 7200⟩)⟩,
     ⟨-18000, .byRules unitedStates, some (1976, ⟨1, .on 1, .wall, 0⟩)⟩,
     ⟨-18000, .fixed 0, some (2006, ⟨1, .on 1, .wall, 0⟩)⟩,
     ⟨-18000, .byRules unitedStates, none⟩]),
   ("America/Indiana/Petersburg",
    [⟨-20947, .fixed 0, some (1883, ⟨11, .on 18, .universal, 64800⟩)⟩,
     ⟨-21600, .byRules unitedStates, some (1955, ⟨1, .on 1, .wall, 0⟩)⟩,
     ⟨-21600, .byRules pike, some (1965, ⟨4, .on 25, .wall, 7200⟩)⟩,
     ⟨-18000, .fixed 0, some (1966, ⟨10, .on 30, .wall, 7200⟩)⟩,
     ⟨-21600, .byRules unitedStates, some (1977, ⟨10, .on 30, .wall, 7200⟩)⟩,
     ⟨-18000, .fixed 0, some (2006, ⟨4, .on 2, .wall, 7200⟩)⟩,
     ⟨-21600, .byRules unitedStates, some (2007, ⟨11, .on 4, .wall, 7200⟩)⟩,
     ⟨-18000, .byRules unitedStates, none⟩]),
   ("America/Indiana/Tell_City",
    [⟨-20823, .fixed 0, some (1883, ⟨11, .on 18, .universal, 64800⟩)⟩,
     ⟨-21600, .byRules unitedStates, some (1946, ⟨1, .on 1, .wall, 0⟩)⟩,
     ⟨-21600, .byRules perry, some (1964, ⟨4, .on 26, .wall, 7200⟩)⟩,
     ⟨-18000, .fixed 0, some (1967, ⟨10, .on 29, .wall, 7200⟩)⟩,
     ⟨-21600, .byRules unitedStates, some (1969, ⟨4, .on 27, .wall, 7200⟩)⟩,
     ⟨-18000, .byRules unitedStates, some (1971, ⟨1, .on 1, .wall, 0⟩)⟩,
     ⟨-18000, .fixed 0, some (2006, ⟨4, .on 2, .wall, 7200⟩)⟩,
     ⟨-21600, .byRules unitedStates, none⟩]),
   ("America/Indiana/Vevay",
    [⟨-20416, .fixed 0, some (1883, ⟨11, .on 18, .universal, 64800⟩)⟩,
     ⟨-21600, .byRules unitedStates, some (1954, ⟨4, .on 25, .wall, 7200⟩)⟩,
     ⟨-18000, .fixed 0, some (1969, ⟨1, .on 1, .wall, 0⟩)⟩,
     ⟨-18000, .byRules unitedStates, some (1973, ⟨1, .on 1, .wall, 0⟩)⟩,
     ⟨-18000, .fixed 0, some (2006, ⟨1, .on 1, .wall, 0⟩)⟩,
     ⟨-18000, .byRules unitedStates, none⟩]),
   ("America/Indiana/Vincennes",
    [⟨-21007, .fixed 0, some (1883, ⟨11, .on 18, .universal, 64800⟩)⟩,
     ⟨-21600, .byRules unitedStates, some (1946, ⟨1, .on 1, .wall, 0⟩)⟩,
     ⟨-21600, .byRules vincennes, some (1964, ⟨4, .on 26, .wall, 7200⟩)⟩,
     ⟨-18000, .fixed 0, some (1969, ⟨1, .on 1, .wall, 0⟩)⟩,
     ⟨-18000, .byRules unitedStates, some (1971, ⟨1, .on 1, .wall, 0⟩)⟩,
     ⟨-18000, .fixed 0, some (2006, ⟨4, .on 2, .wall, 7200⟩)⟩,
     ⟨-21600, .byRules unitedStates, some (2007, ⟨11, .on 4, .wall, 7200⟩)⟩,
     ⟨-18000, .byRules unitedStates, none⟩]),
   ("America/Indiana/Winamac",
    [⟨-20785, .fixed 0, some (1883, ⟨11, .on 18, .universal, 64800⟩)⟩,
     ⟨-21600, .byRules unitedStates, some (1946, ⟨1, .on 1, .wall, 0⟩)⟩,
     ⟨-21600, .byRules pulaski, some (1961, ⟨4, .on 30, .wall, 7200⟩)⟩,
     ⟨-18000, .fixed 0, some (1969, ⟨1, .on 1, .wall, 0⟩)⟩,
     ⟨-18000, .byRules unitedStates, some (1971, ⟨1, .on 1, .wall, 0⟩)⟩,
     ⟨-18000, .fixed 0, some (2006, ⟨4, .on 2, .wall, 7200⟩)⟩,
     ⟨-21600, .byRules unitedStates, some (2007, ⟨3, .on 11, .wall, 7200⟩)⟩,
     ⟨-18000, .byRules unitedStates, none⟩]),
   ("America/Inuvik",
    [⟨0, .fixed 0, some (1953, ⟨1, .on 1, .wall, 0⟩)⟩,
     ⟨-28800, .byRules northwestTerritories, some (1979, ⟨4, .last .sun, .wall, 7200⟩)⟩,
     ⟨-25200, .byRules northwestTerritories, some (1980, ⟨1, .on 1, .wall, 0⟩)⟩,
     ⟨-25200, .byRules canada, none⟩]),
   ("America/Iqaluit",
    [⟨0, .fixed 0, some (1942, ⟨8, .on 1, .wall, 0⟩)⟩,
     ⟨-18000, .byRules northwestTerritories, some (1999, ⟨10, .on 31, .wall, 7200⟩)⟩,
     ⟨-21600, .byRules canada, some (2000, ⟨10, .on 29, .wall, 7200⟩)⟩,
     ⟨-18000, .byRules canada, none⟩]),
   ("America/Jamaica",
    [⟨-18430, .fixed 0, some (1890, ⟨1, .on 1, .wall, 0⟩)⟩,
     ⟨-18430, .fixed 0, some (1912, ⟨2, .on 1, .wall, 0⟩)⟩,
     ⟨-18000, .fixed 0, some (1974, ⟨1, .on 1, .wall, 0⟩)⟩,
     ⟨-18000, .byRules unitedStates, some (1984, ⟨1, .on 1, .wall, 0⟩)⟩,
     ⟨-18000, .fixed 0, none⟩]),
   ("America/Juneau",
    [⟨54139, .fixed 0, some (1867, ⟨10, .on 19, .wall, 56012⟩)⟩,
     ⟨-32261, .fixed 0, some (1900, ⟨8, .on 20, .wall, 43200⟩)⟩,
     ⟨-28800, .fixed 0, some (1942, ⟨1, .on 1, .wall, 0⟩)⟩,
     ⟨-28800, .byRules unitedStates, some (1946, ⟨1, .on 1, .wall, 0⟩)⟩,
     ⟨-28800, .fixed 0, some (1969, ⟨1, .on 1, .wall, 0⟩)⟩,
     ⟨-28800, .byRules unitedStates, some (1980, ⟨4, .on 27, .wall, 7200⟩)⟩,
     ⟨-32400, .byRules unitedStates, some (1980, ⟨10, .on 26, .wall, 7200⟩)⟩,
     ⟨-28800, .byRules unitedStates, some (1983, ⟨10, .on 30, .wall, 7200⟩)⟩,
     ⟨-32400, .byRules unitedStates, some (1983, ⟨11, .on 30, .wall, 0⟩)⟩,
     ⟨-32400, .byRules unitedStates, none⟩]),
   ("America/Kentucky/Louisville",
    [⟨-20582, .fixed 0, some (1883, ⟨11, .on 18, .universal, 64800⟩)⟩,
     ⟨-21600, .byRules unitedStates, some (1921, ⟨1, .on 1, .wall, 0⟩)⟩,
     ⟨-21600, .byRules louisville, some (1942, ⟨1, .on 1, .wall, 0⟩)⟩,
     ⟨-21600, .byRules unitedStates, some (1946, ⟨1, .on 1, .wall, 0⟩)⟩,
     ⟨-21600, .byRules louisville, some (1961, ⟨7, .on 23, .wall, 7200⟩)⟩,
     ⟨-18000, .fixed 0, some (1968, ⟨1, .on 1, .wall, 0⟩)⟩,
     ⟨-18000, .byRules unitedStates, some (1974, ⟨1, .on 6, .wall, 7200⟩)⟩,
     ⟨-21600, .fixed 3600, some (1974, ⟨10, .on 27, .wall, 7200⟩)⟩,
     ⟨-18000, .byRules unitedStates, none⟩]),
   ("America/Kentucky/Monticello",
    [⟨-20364, .fixed 0, some (1883, ⟨11, .on 18, .universal, 64800⟩)⟩,
     ⟨-21600, .byRules unitedStates, some (1946, ⟨1, .on 1, .wall, 0⟩)⟩,
     ⟨-21600, .fixed 0, some (1968, ⟨1, .on 1, .wall, 0⟩)⟩,
     ⟨-21600, .byRules unitedStates, some (2000, ⟨10, .on 29, .wall, 7200⟩)⟩,
     ⟨-18000, .byRules unitedStates, none⟩]),
   ("America/La_Paz",
    [⟨-16356, .fixed 0, some (1890, ⟨1, .on 1, .wall, 0⟩)⟩,
     ⟨-16356, .fixed 0, some (1931, ⟨10, .on 15, .wall, 0⟩)⟩,
     ⟨-16356, .fixed 3600, some (1932, ⟨3, .on 21, .wall, 0⟩)⟩,
     ⟨-14400, .fixed 0, none⟩]),
   ("America/Lima",
    [⟨-18492, .fixed 0, some (1890, ⟨1, .on 1, .wall, 0⟩)⟩,
     ⟨-18516, .fixed 0, some (1908, ⟨7, .on 28, .wall, 0⟩)⟩,
     ⟨-18000, .byRules peru, none⟩]),
   ("America/Los_Angeles",
    [⟨-28378, .fixed 0, some (1883, ⟨11, .on 18, .universal, 72000⟩)⟩,
     ⟨-28800, .byRules unitedStates, some (1946, ⟨1, .on 1, .wall, 0⟩)⟩,
     ⟨-28800, .byRules california, some (1967, ⟨1, .on 1, .wall, 0⟩)⟩,
     ⟨-28800, .byRules unitedStates, none⟩]),
   ("America/Maceio",
    [⟨-8572, .fixed 0, some (1914, ⟨1, .on 1, .wall, 0⟩)⟩,
     ⟨-10800, .byRules brazil, some (1990, ⟨9, .on 17, .wall, 0⟩)⟩,
     ⟨-10800, .fixed 0, some (1995, ⟨10, .on 13, .wall, 0⟩)⟩,
     ⟨-10800, .byRules brazil, some (1996, ⟨9, .on 4, .wall, 0⟩)⟩,
     ⟨-10800, .fixed 0, some (1999, ⟨9, .on 30, .wall, 0⟩)⟩,
     ⟨-10800, .byRules brazil, some (2000, ⟨10, .on 22, .wall, 0⟩)⟩,
     ⟨-10800, .fixed 0, some (2001, ⟨9, .on 13, .wall, 0⟩)⟩,
     ⟨-10800, .byRules brazil, some (2002, ⟨10, .on 1, .wall, 0⟩)⟩,
     ⟨-10800, .fixed 0, none⟩]),
   ("America/Managua",
    [⟨-20708, .fixed 0, some (1890, ⟨1, .on 1, .wall, 0⟩)⟩,
     ⟨-20712, .fixed 0, some (1934, ⟨6, .on 23, .wall, 0⟩)⟩,
     ⟨-21600, .fixed 0, some (1973, ⟨5, .on 1, .wall, 0⟩)⟩,
     ⟨-18000, .fixed 0, some (1975, ⟨2, .on 16, .wall, 0⟩)⟩,
     ⟨-21600, .byRules nicaragua, some (1992, ⟨1, .on 1, .wall, 14400⟩)⟩,
     ⟨-18000, .fixed 0, some (1992, ⟨9, .on 24, .wall, 0⟩)⟩,
     ⟨-21600, .fixed 0, some (1993, ⟨1, .on 1, .wall, 0⟩)⟩,
     ⟨-18000, .fixed 0, some (1997, ⟨1, .on 1, .wall, 0⟩)⟩,
     ⟨-21600, .byRules nicaragua, none⟩]),
   ("America/Manaus",
    [⟨-14404, .fixed 0, some (1914, ⟨1, .on 1, .wall, 0⟩)⟩,
     ⟨-14400, .byRules brazil, some (1988, ⟨9, .on 12, .wall, 0⟩)⟩,
     ⟨-14400, .fixed 0, some (1993, ⟨9, .on 28, .wall, 0⟩)⟩,
     ⟨-14400, .byRules brazil, some (1994, ⟨9, .on 22, .wall, 0⟩)⟩,
     ⟨-14400, .fixed 0, none⟩]),
   ("America/Martinique",
    [⟨-14660, .fixed 0, some (1890, ⟨1, .on 1, .wall, 0⟩)⟩,
     ⟨-14660, .fixed 0, some (1911, ⟨5, .on 1, .wall, 0⟩)⟩,
     ⟨-14400, .fixed 0, some (1980, ⟨4, .on 6, .wall, 0⟩)⟩,
     ⟨-14400, .fixed 3600, some (1980, ⟨9, .on 28, .wall, 0⟩)⟩,
     ⟨-14400, .fixed 0, none⟩]),
   ("America/Matamoros",
    [⟨-23400, .fixed 0, some (1922, ⟨1, .on 1, .universal, 21600⟩)⟩,
     ⟨-21600, .fixed 0, some (1988, ⟨1, .on 1, .wall, 0⟩)⟩,
     ⟨-21600, .byRules unitedStates, some (1989, ⟨1, .on 1, .wall, 0⟩)⟩,
     ⟨-21600, .byRules mexico, some (2010, ⟨1, .on 1, .wall, 0⟩)⟩,
     ⟨-21600, .byRules unitedStates, none⟩]),
   ("America/Mazatlan",
    [⟨-25540, .fixed 0, some (1922, ⟨1, .on 1, .universal, 25200⟩)⟩,
     ⟨-25200, .fixed 0, some (1927, ⟨6, .on 10, .wall, 0⟩)⟩,
     ⟨-21600, .fixed 0, some (1930, ⟨11, .on 15, .wall, 0⟩)⟩,
     ⟨-25200, .byRules mexico, some (1932, ⟨4, .on 1, .wall, 0⟩)⟩,
     ⟨-21600, .fixed 0, some (1942, ⟨4, .on 24, .wall, 0⟩)⟩,
     ⟨-25200, .fixed 0, some (1970, ⟨1, .on 1, .wall, 0⟩)⟩,
     ⟨-25200, .byRules mexico, none⟩]),
   ("America/Menominee",
    [⟨-21027, .fixed 0, some (1885, ⟨9, .on 18, .wall, 43200⟩)⟩,
     ⟨-21600, .byRules unitedStates, some (1946, ⟨1, .on 1, .wall, 0⟩)⟩,
     ⟨-21600, .byRules menominee, some (1969, ⟨4, .on 27, .wall, 7200⟩)⟩,
     ⟨-18000, .fixed 0, some (1973, ⟨4, .on 29, .wall, 7200⟩)⟩,
     ⟨-21600, .byRules unitedStates, none⟩]),
   ("America/Merida",
    [⟨-21508, .fixed 0, some (1922, ⟨1, .on 1, .universal, 21600⟩)⟩,
     ⟨-21600, .fixed 0, some (1981, ⟨12, .on 26, .wall, 7200⟩)⟩,
     ⟨-18000, .fixed 0, some (1982, ⟨11, .on 2, .wall, 7200⟩)⟩,
     ⟨-21600, .byRules mexico, none⟩]),
   ("America/Metlakatla",
    [⟨54822, .fixed 0, some (1867, ⟨10, .on 19, .wall, 56695⟩)⟩,
     ⟨-31578, .fixed 0, some (1900, ⟨8, .on 20, .wall, 43200⟩)⟩,
     ⟨-28800, .fixed 0, some (1942, ⟨1, .on 1, .wall, 0⟩)⟩,
     ⟨-28800, .byRules unitedStates, some (1946, ⟨1, .on 1, .wall, 0⟩)⟩,
     ⟨-28800, .fixed 0, some (1969, ⟨1, .on 1, .wall, 0⟩)⟩,
     ⟨-28800, .byRules unitedStates, some (1983, ⟨10, .on 30, .wall, 7200⟩)⟩,
     ⟨-28800, .fixed 0, some (2015, ⟨11, .on 1, .wall, 7200⟩)⟩,
     ⟨-32400, .byRules unitedStates, some (2018, ⟨11, .on 4, .wall, 7200⟩)⟩,
     ⟨-28800, .fixed 0, some (2019, ⟨1, .on 20, .wall, 7200⟩)⟩,
     ⟨-32400, .byRules unitedStates, none⟩])]

def americaZones3 : List (String × List Era) :=
  [("America/Mexico_City",
    [⟨-23796, .fixed 0, some (1922, ⟨1, .on 1, .universal, 25200⟩)⟩,
     ⟨-25200, .fixed 0, some (1927, ⟨6, .on 10, .wall, 0⟩)⟩,
     ⟨-21600, .fixed 0, some (1930, ⟨11, .on 15, .wall, 0⟩)⟩,
     ⟨-25200, .byRules mexico, some (1932, ⟨4, .on 1, .wall, 0⟩)⟩,
     ⟨-21600, .byRules mexico, some (2001, ⟨9, .on 30, .wall, 7200⟩)⟩,
     ⟨-21600, .fixed 0, some (2002, ⟨2, .on 20, .wall, 0⟩)⟩,
     ⟨-21600, .byRules mexico, none⟩]),
   ("America/Miquelon",
    [⟨-13480, .fixed 0, some (1911, ⟨6, .on 15, .wall, 0⟩)⟩,
     ⟨-14400, .fixed 0, some (1980, ⟨5, .on 1, .wall, 0⟩)⟩,
     ⟨-10800, .fixed 0, some (1987, ⟨1, .on 1, .wall, 0⟩)⟩,
     ⟨-10800, .byRules canada, none⟩]),
   ("America/Moncton",
    [⟨-15548, .fixed 0, some (1883, ⟨12, .on 9, .wall, 0⟩)⟩,
     ⟨-18000, .fixed 0, some (1902, ⟨6, .on 15, .wall, 0⟩)⟩,
     ⟨-14400, .byRules canada, some (1933, ⟨1, .on 1, .wall, 0⟩)⟩,
     ⟨-14400, .byRules moncton, some (1942, ⟨1, .on 1, .wall, 0⟩)⟩,
     ⟨-14400, .byRules canada, some (1946, ⟨1, .on 1, .wall, 0⟩)⟩,
     ⟨-14400, .byRules moncton, some (1973, ⟨1, .on 1, .wall, 0⟩)⟩,
     ⟨-14400, .byRules canada, some (1993, ⟨1, .on 1, .wall, 0⟩)⟩,
     ⟨-14400, .byRules moncton, some (2007, ⟨1, .on 1, .wall, 0⟩)⟩,
     ⟨-14400, .byRules canada, none⟩]),
   ("America/Monterrey",
    [⟨-24076, .fixed 0, some (1922, ⟨1, .on 1, .universal, 21600⟩)⟩,
     ⟨-25200, .fixed 0, some (1927, ⟨6, .on 10, .wall, 0⟩)⟩,
     ⟨-21600, .fixed 0, some (1930, ⟨11, .on 15, .wall, 0⟩)⟩,
     ⟨-25200, .byRules mexico, some (1932, ⟨4, .on 1, .wall, 0⟩)⟩,
     ⟨-21600, .fixed 0, some (1988, ⟨1, .on 1, .wall, 0⟩)⟩,
     ⟨-21600, .byRules unitedStates, some (1989, ⟨1, .on 1, .wall, 0⟩)⟩,
     ⟨-21600, .byRules mexico, none⟩]),
   ("America/Montevideo",
    [⟨-13491, .fixed 0, some (1908, ⟨6, .on 10, .wall, 0⟩)⟩,
     ⟨-13491, .fixed 0, some (1920, ⟨5, .on 1, .wall, 0⟩)⟩,
     ⟨-14400, .fixed 0, some (1923, ⟨10, .on 1, .wall, 0⟩)⟩,
     ⟨-12600, .byRules uruguay, some (1942, ⟨12, .on 14, .wall, 0⟩)⟩,
     ⟨-10800, .byRules uruguay, some (1960, ⟨1, .on 1, .wall, 0⟩)⟩,
     ⟨-10800, .byRules uruguay, some (1968, ⟨1, .on 1, .wall, 0⟩)⟩,
     ⟨-10800, .byRules uruguay, some (1970, ⟨1, .on 1, .wall, 0⟩)⟩,
     ⟨-10800, .byRules uruguay, some (1974, ⟨1, .on 1, .wall, 0⟩)⟩,
     ⟨-10800, .byRules uruguay, some (1974, ⟨3, .on 10, .wall, 0⟩)⟩,
     ⟨-10800, .byRules uruguay, some (1974, ⟨12, .on 22, .wall, 0⟩)⟩,
     ⟨-10800, .byRules uruguay, none⟩]),
   ("America/New_York",
    [⟨-17762, .fixed 0, some (1883, ⟨11, .on 18, .universal, 61200⟩)⟩,
     ⟨-18000, .byRules unitedStates, some (1920, ⟨1, .on 1, .wall, 0⟩)⟩,
     ⟨-18000, .byRules newYork, some (1942, ⟨1, .on 1, .wall, 0⟩)⟩,
     ⟨-18000, .byRules unitedStates, some (1946, ⟨1, .on 1, .wall, 0⟩)⟩,
     ⟨-18000, .byRules newYork, some (1967, ⟨1, .on 1, .wall, 0⟩)⟩,
     ⟨-18000, .byRules unitedStates, none⟩]),
   ("America/Nome",
    [⟨46702, .fixed 0, some (1867, ⟨10, .on 19, .wall, 48575⟩)⟩,
     ⟨-39698, .fixed 0, some (1900, ⟨8, .on 20, .wall, 43200⟩)⟩,
     ⟨-39600, .fixed 0, some (1942, ⟨1, .on 1, .wall, 0⟩)⟩,
     ⟨-39600, .byRules unitedStates, some (1946, ⟨1, .on 1, .wall, 0⟩)⟩,
     ⟨-39600, .fixed 0, some (1967, ⟨4, .on 1, .wall, 0⟩)⟩,
     ⟨-39600, .fixed 0, some (1969, ⟨1, .on 1, .wall, 0⟩)⟩,
     ⟨-39600, .byRules unitedStates, some (1983, ⟨10, .on 30, .wall, 7200⟩)⟩,
     ⟨-32400, .byRules unitedStates, some (1983, ⟨11, .on 30, .wall, 0⟩)⟩,
     ⟨-32400, .byRules unitedStates, none⟩]),
   ("America/Noronha",
    [⟨-7780, .fixed 0, some (1914, ⟨1, .on 1, .wall, 0⟩)⟩,
     ⟨-7200, .byRules brazil, some (1990, ⟨9, .on 17, .wall, 0⟩)⟩,
     ⟨-7200, .fixed 0, some (1999, ⟨9, .on 30, .wall, 0⟩)⟩,
     ⟨-7200, .byRules brazil, some (2000, ⟨10, .on 15, .wall, 0⟩)⟩,
     ⟨-7200, .fixed 0, some (2001, ⟨9, .on 13, .wall, 0⟩)⟩,
     ⟨-7200, .byRules brazil, some (2002, ⟨10, .on 1, .wall, 0⟩)⟩,
     ⟨-7200, .fixed 0, none⟩]),
   ("America/North_Dakota/Beulah",
    [⟨-24427, .fixed 0, some (1883, ⟨11, .on 18, .universal, 68400⟩)⟩,
     ⟨-25200, .byRules unitedStates, some (2010, ⟨11, .on 7, .wall, 7200⟩)⟩,
     ⟨-21600, .byRules unitedStates, none⟩]),
   ("America/North_Dakota/Center",
    [⟨-24312, .fixed 0, some (1883, ⟨11, .on 18, .universal, 68400⟩)⟩,
     ⟨-25200, .byRules unitedStates, some (1992, ⟨10, .on 25, .wall, 7200⟩)⟩,
     ⟨-21600, .byRules unitedStates, none⟩]),
   ("America/North_Dakota/New_Salem",
    [⟨-24339, .fixed 0, some (1883, ⟨11, .on 18, .universal, 68400⟩)⟩,
     ⟨-25200, .byRules unitedStates, some (2003, ⟨10, .on 26, .wall, 7200⟩)⟩,
     ⟨-21600, .byRules unitedStates, none⟩]),
   ("America/Nuuk",
    [⟨-12416, .fixed 0, some (1916, ⟨7, .on 28, .wall, 0⟩)⟩,
     ⟨-10800, .fixed 0, some (1980, ⟨4, .on 6, .wall, 7200⟩)⟩,
     ⟨-10800, .byRules europeanUnion, some (2023, ⟨3, .on 26, .universal, 3600⟩)⟩,
     ⟨-7200, .fixed 0, some (2023, ⟨10, .on 29, .universal, 3600⟩)⟩,
     ⟨-7200, .byRules europeanUnion, none⟩]),
   ("America/Ojinaga",
    [⟨-25060, .fixed 0, some (1922, ⟨1, .on 1, .universal, 25200⟩)⟩,
     ⟨-25200, .fixed 0, some (1927, ⟨6, .on 10, .wall, 0⟩)⟩,
     ⟨-21600, .fixed 0, some (1930, ⟨11, .on 15, .wall, 0⟩)⟩,
     ⟨-25200, .byRules mexico, some (1932, ⟨4, .on 1, .wall, 0⟩)⟩,
     ⟨-21600, .fixed 0, some (1996, ⟨1, .on 1, .wall, 0⟩)⟩,
     ⟨-21600, .byRules mexico, some (1998, ⟨1, .on 1, .wall, 0⟩)⟩,
     ⟨-21600, .fixed 0, some (1998, ⟨4, .onOrAfter .sun 1, .wall, 10800⟩)⟩,
     ⟨-25200, .byRules mexico, some (2010, ⟨1, .on 1, .wall, 0⟩)⟩,
     ⟨-25200, .byRules unitedStates, some (2022, ⟨10, .on 30, .wall, 7200⟩)⟩,
     ⟨-21600, .fixed 0, some (2022, ⟨11, .on 30, .wall, 0⟩)⟩,
     ⟨-21600, .byRules unitedStates, none⟩]),
   ("America/Panama",
    [⟨-19088, .fixed 0, some (1890, ⟨1, .on 1, .wall, 0⟩)⟩,
     ⟨-19176, .fixed 0, some (1908, ⟨4, .on 22, .wall, 0⟩)⟩,
     ⟨-18000, .fixed 0, none⟩]),
   ("America/Paramaribo",
    [⟨-13240, .fixed 0, some (1911, ⟨1, .on 1, .wall, 0⟩)⟩,
     ⟨-13252, .fixed 0, some (1935, ⟨1, .on 1, .wall, 0⟩)⟩,
     ⟨-13236, .fixed 0, some (1945, ⟨10, .on 1, .wall, 0⟩)⟩,
     ⟨-12600, .fixed 0, some (1984, ⟨10, .on 1, .wall, 0⟩)⟩,
     ⟨-10800, .fixed 0, none⟩]),
   ("America/Phoenix",
    [⟨-26898, .fixed 0, some (1883, ⟨11, .on 18, .universal, 68400⟩)⟩,
     ⟨-25200, .byRules unitedStates, some (1944, ⟨1, .on 1, .wall, 60⟩)⟩,
     ⟨-25200, .fixed 0, some (1944, ⟨4, .on 1, .wall, 60⟩)⟩,
     ⟨-25200, .byRules unitedStates, some (1944, ⟨10, .on 1, .wall, 60⟩)⟩,
     ⟨-25200, .fixed 0, some (1967, ⟨1, .on 1, .wall, 0⟩)⟩,
     ⟨-25200, .byRules unitedStates, some (1968, ⟨3, .on 21, .wall, 0⟩)⟩,
     ⟨-25200, .fixed 0, none⟩]),
   ("America/Port-au-Prince",
    [⟨-17360, .fixed 0, some (1890, ⟨1, .on 1, .wall, 0⟩)⟩,
     ⟨-17340, .fixed 0, some (1917, ⟨1, .on 24, .wall, 43200⟩)⟩,
     ⟨-18000, .byRules haiti, none⟩]),
   ("America/Porto_Velho",
    [⟨-15336, .fixed 0, some (1914, ⟨1, .on 1, .wall, 0⟩)⟩,
     ⟨-14400, .byRules brazil, some (1988, ⟨9, .on 12, .wall, 0⟩)⟩,
     ⟨-14400, .fixed 0, none⟩]),
   ("America/Puerto_Rico",
    [⟨-15865, .fixed 0, some (1899, ⟨3, .on 28, .wall, 43200⟩)⟩,
     ⟨-14400, .fixed 0, some (1942, ⟨5, .on 3, .wall, 0⟩)⟩,
     ⟨-14400, .byRules unitedStates, some (1946, ⟨1, .on 1, .wall, 0⟩)⟩,
     ⟨-14400, .fixed 0, none⟩]),
   ("America/Punta_Arenas",
    [⟨-17020, .fixed 0, some (1890, ⟨1, .on 1, .wall, 0⟩)⟩,
     ⟨-16965, .fixed 0, some (1910, ⟨1, .on 10, .wall, 0⟩)⟩,
     ⟨-18000, .fixed 0, some (1916, ⟨7, .on 1, .wall, 0⟩)⟩,
     ⟨-16965, .fixed 0, some (1918, ⟨9, .on 10, .wall, 0⟩)⟩,
     ⟨-14400, .fixed 0, some (1919, ⟨7, .on 1, .wall, 0⟩)⟩,
     ⟨-16965, .fixed 0, some (1927, ⟨9, .on 1, .wall, 0⟩)⟩,
     ⟨-18000, .byRules chile, some (1932, ⟨9, .on 1, .wall, 0⟩)⟩,
     ⟨-14400, .fixed 0, some (1942, ⟨6, .on 1, .wall, 0⟩)⟩,
     ⟨-18000, .fixed 0, some (1942, ⟨8, .on 1, .wall, 0⟩)⟩,
     ⟨-14400, .fixed 0, some (1946, ⟨8, .on 28, .wall, 86400⟩)⟩,
     ⟨-18000, .fixed 3600, some (1947, ⟨3, .on 31, .wall, 86400⟩)⟩,
     ⟨-18000, .fixed 0, some (1947, ⟨5, .on 21, .wall, 82800⟩)⟩,
     ⟨-14400, .byRules chile, some (2016, ⟨12, .on 4, .wall, 0⟩)⟩,
     ⟨-10800, .fixed 0, none⟩]),
   ("America/Rankin_Inlet",
    [⟨0, .fixed 0, some (1957, ⟨1, .on 1, .wall, 0⟩)⟩,
     ⟨-21600, .byRules northwestTerritories, some (2000, ⟨10, .on 29, .wall, 7200⟩)⟩,
     ⟨-18000, .fixed 0, some (2001, ⟨4, .on 1, .wall, 10800⟩)⟩,
     ⟨-21600, .byRules canada, none⟩]),
   ("America/Recife",
    [⟨-8376, .fixed 0, some (1914, ⟨1, .on 1, .wall, 0⟩)⟩,
     ⟨-10800, .byRules brazil, some (1990, ⟨9, .on 17, .wall, 0⟩)⟩,
     ⟨-10800, .fixed 0, some (1999, ⟨9, .on 30, .wall, 0⟩)⟩,
     ⟨-10800, .byRules brazil, some (2000, ⟨10, .on 15, .wall, 0⟩)⟩,
     ⟨-10800, .fixed 0, some (2001, ⟨9, .on 13, .wall, 0⟩)⟩,
     ⟨-10800, .byRules brazil, some (2002, ⟨10, .on 1, .wall, 0⟩)⟩,
     ⟨-10800, .fixed 0, none⟩]),
   ("America/Regina",
    [⟨-25116, .fixed 0, some (1905, ⟨9, .on 1, .wall, 0⟩)⟩,
     ⟨-25200, .byRules regina, some (1960, ⟨4, .last .sun, .wall, 7200⟩)⟩,
     ⟨-21600, .fixed 0, none⟩]),
   ("America/Resolute",
    [⟨0, .fixed 0, some (1947, ⟨8, .on 31, .wall, 0⟩)⟩,
     ⟨-21600, .byRules northwestTerritories, some (2000, ⟨10, .on 29, .wall, 7200⟩)⟩,
     ⟨-18000, .fixed 0, some (2001, ⟨4, .on 1, .wall, 10800⟩)⟩,
     ⟨-21600, .byRules canada, some (2006, ⟨10, .on 29, .wall, 7200⟩)⟩,
     ⟨-18000, .fixed 0, some (2007, ⟨3, .on 11, .wall, 10800⟩)⟩,
     ⟨-21600, .byRules canada, none⟩]),
   ("America/Rio_Branco",
    [⟨-16272, .fixed 0, some (1914, ⟨1, .on 1, .wall, 0⟩)⟩,
     ⟨-18000, .byRules brazil, some (1988, ⟨9, .on 12, .wall, 0⟩)⟩,
     ⟨-18000, .fixed 0, some (2008, ⟨6, .on 24, .wall, 0⟩)⟩,
     ⟨-14400, .fixed 0, some (2013, ⟨11, .on 10, .wall, 0⟩)⟩,
     ⟨-18000, .fixed 0, none⟩]),
   ("America/Santarem",
    [⟨-13128, .fixed 0, some (1914, ⟨1, .on 1, .wall, 0⟩)⟩,
     ⟨-14400, .byRules brazil, some (1988, ⟨9, .on 12, .wall, 0⟩)⟩,
     ⟨-14400, .fixed 0, some (2008, ⟨6, .on 24, .wall, 0⟩)⟩,
     ⟨-10800, .fixed 0, none⟩]),
   ("America/Santiago",
    [⟨-16965, .fixed 0, some (1890, ⟨1, .on 1, .wall, 0⟩)⟩,
     ⟨-16965, .fixed 0, some (1910, ⟨1, .on 10, .wall, 0⟩)⟩,
     ⟨-18000, .fixed 0, some (1916, ⟨7, .on 1, .wall, 0⟩)⟩,
     ⟨-16965, .fixed 0, some (1918, ⟨9, .on 10, .wall, 0⟩)⟩,
     ⟨-14400, .fixed 0, some (1919, ⟨7, .on 1, .wall, 0⟩)⟩,
     ⟨-16965, .fixed 0, some (1927, ⟨9, .on 1, .wall, 0⟩)⟩,
     ⟨-18000, .byRules chile, some (1932, ⟨9, .on 1, .wall, 0⟩)⟩,
     ⟨-14400, .fixed 0, some (1942, ⟨6, .on 1, .wall, 0⟩)⟩,
     ⟨-18000, .fixed 0, some (1942, ⟨8, .on 1, .wall, 0⟩)⟩,
     ⟨-14400, .fixed 0, some (1946, ⟨7, .on 14, .wall, 86400⟩)⟩,
     ⟨-14400, .fixed 3600, some (1946, ⟨8, .on 28, .wall, 86400⟩)⟩,
     ⟨-18000, .fixed 3600, some (1947, ⟨3, .on 31, .wall, 86400⟩)⟩,
     ⟨-18000, .fixed 0, some (1947, ⟨5, .on 21, .wall, 82800⟩)⟩,
     ⟨-14400, .byRules chile, none⟩]),
   ("America/Santo_Domingo",
    [⟨-16776, .fixed 0, some (1890, ⟨1, .on 1, .wall, 0⟩)⟩,
     ⟨-16800, .fixed 0, some (1933, ⟨4, .on 1, .wall, 43200⟩)⟩,
     ⟨-18000, .byRules dominicanRepublic, some (1974, ⟨10, .on 27, .wall, 0⟩)⟩,
     ⟨-14400, .fixed 0, some (2000, ⟨10, .on 29, .wall, 7200⟩)⟩,
     ⟨-18000, .byRules unitedStates, some (2000, ⟨12, .on 3, .wall, 3600⟩)⟩,
     ⟨-14400, .fixed 0, none⟩]),
   ("America/Sao_Paulo",
    [⟨-11188, .fixed 0, some (1914, ⟨1, .on 1, .wall, 0⟩)⟩,
     ⟨-10800, .byRules brazil, some (1963, ⟨10, .on 23, .wall, 0⟩)⟩,
     ⟨-10800, .fixed 3600, some (1964, ⟨1, .on 1, .wall, 0⟩)⟩,
     ⟨-10800, .byRules brazil, none⟩]),
   ("America/Scoresbysund",
    [⟨-5272, .fixed 0, some (1916, ⟨7, .on 28, .wall, 0⟩)⟩,
     ⟨-7200, .fixed 0, some (1980, ⟨4, .on 6, .wall, 7200⟩)⟩,
     ⟨-7200, .byRules centralEurope, some (1981, ⟨3, .on 29, .wall, 0⟩)⟩,
     ⟨-3600, .byRules europeanUnion, some (2024, ⟨3, .on 31, .wall, 0⟩)⟩,
     ⟨-7200, .byRules europeanUnion, none⟩]),
   ("America/Sitka",
    [⟨53927, .fixed 0, some (1867, ⟨10, .on 19, .wall, 55800⟩)⟩,
     ⟨-32473, .fixed 0, some (1900, ⟨8, .on 20, .wall, 43200⟩)⟩,
     ⟨-28800, .fixed 0, some (1942, ⟨1, .on 1, .wall, 0⟩)⟩,
     ⟨-28800, .byRules unitedStates, some (1946, ⟨1, .on 1, .wall, 0⟩)⟩,
     ⟨-28800, .fixed 0, some (1969, ⟨1, .on 1, .wall, 0⟩)⟩,
     ⟨-28800, .byRules unitedStates, some (1983, ⟨10, .on 30, .wall, 7200⟩)⟩,
     ⟨-32400, .byRules unitedStates, some (1983, ⟨11, .on 30, .wall, 0⟩)⟩,
     ⟨-32400, .byRules unitedStates, none⟩]),
   ("America/St_Johns",
    [⟨-12652, .fixed 0, some (1884, ⟨1, .on 1, .wall, 0⟩)⟩,
     ⟨-12652, .byRules stJohns, some (1918, ⟨1, .on 1, .wall, 0⟩)⟩,
     ⟨-12652, .byRules canada, some (1919, ⟨1, .on 1, .wall, 0⟩)⟩,
     ⟨-12652, .byRules stJohns, some (1935, ⟨3, .on 30, .wall, 0⟩)⟩,
     ⟨-12600, .byRules stJohns, some (1942, ⟨5, .on 11, .wall, 0⟩)⟩,
     ⟨-12600, .byRules canada, some (1946, ⟨1, .on 1, .wall, 0⟩)⟩,
     ⟨-12600, .byRules stJohns, some (2011, ⟨11, .on 1, .wall, 0⟩)⟩,
     ⟨-12600, .byRules canada, none⟩]),
   ("America/Swift_Current",
    [⟨-25880, .fixed 0, some (1905, ⟨9, .on 1, .wall, 0⟩)⟩,
     ⟨-25200, .byRules canada, some (1946, ⟨4, .last .sun, .wall, 7200⟩)⟩,
     ⟨-25200, .byRules regina, some (1950, ⟨1, .on 1, .wall, 0⟩)⟩,
     ⟨-25200, .byRules swiftCurrent, some (1972, ⟨4, .last .sun, .wall, 7200⟩)⟩,
     ⟨-21600, .fixed 0, none⟩]),
   ("America/Tegucigalpa",
    [⟨-20932, .fixed 0, some (1921, ⟨4, .on 1, .wall, 0⟩)⟩,
     ⟨-21600, .byRules honduras, none⟩]),
   ("America/Thule",
    [⟨-16508, .fixed 0, some (1916, ⟨7, .on 28, .wall, 0⟩)⟩,
     ⟨-14400, .byRules thule, none⟩]),
   ("America/Tijuana",
    [⟨-28084, .fixed 0, some (1922, ⟨1, .on 1, .universal, 25200⟩)⟩,
     ⟨-25200, .fixed 0, some (1924, ⟨1, .on 1, .wall, 0⟩)⟩,
     ⟨-28800, .fixed 0, some (1927, ⟨6, .on 10, .wall, 0⟩)⟩,
     ⟨-25200, .fixed 0, some (1930, ⟨11, .on 15, .wall, 0⟩)⟩,
     ⟨-28800, .fixed 0, some (1931, ⟨4, .on 1, .wall, 0⟩)⟩,
     ⟨-28800, .fixed 3600, some (1931, ⟨9, .on 30, .wall, 0⟩)⟩,
     ⟨-28800, .fixed 0, some (1942, ⟨4, .on 24, .wall, 0⟩)⟩,
     ⟨-28800, .fixed 3600, some (1945, ⟨8, .on 14, .universal, 82800⟩)⟩,
     ⟨-28800, .fixed 3600, some (1945, ⟨11, .on 15, .wall, 0⟩)⟩,
     ⟨-28800, .fixed 0, some (1948, ⟨4, .on 5, .wall, 0⟩)⟩,
     ⟨-28800, .fixed 3600, some (1949, ⟨1, .on 14, .wall, 0⟩)⟩,
     ⟨-28800, .fixed 0, some (1950, ⟨5, .on 1, .wall, 0⟩)⟩,
     ⟨-28800, .fixed 3600, some (1950, ⟨9, .on 24, .wall, 0⟩)⟩,
     ⟨-28800, .fixed 0, some (1951, ⟨4, .on 29, .wall, 7200⟩)⟩,
     ⟨-28800, .fixed 3600, some (1951, ⟨9, .on 30, .wall, 7200⟩)⟩,
     ⟨-28800, .fixed 0, some (1952, ⟨4, .on 27, .wall, 7200⟩)⟩,
     ⟨-28800, .fixed 3600, some (1952, ⟨9, .on 28, .wall, 7200⟩)⟩,
     ⟨-28800, .fixed 0, some (1954, ⟨1, .on 1, .wall, 0⟩)⟩,
     ⟨-28800, .byRules california, some (1961, ⟨1, .on 1, .wall, 0⟩)⟩,
     ⟨-28800, .fixed 0, some (1976, ⟨1, .on 1, .wall, 0⟩)⟩,
     ⟨-28800, .byRules unitedStates, some (1996, ⟨1, .on 1, .wall, 0⟩)⟩,
     ⟨-28800, .byRules mexico, some (2001, ⟨1, .on 1, .wall, 0⟩)⟩,
     ⟨-28800, .byRules unitedStates, some (2002, ⟨2, .on 20, .wall, 0⟩)⟩,
     ⟨-28800, .byRules mexico, some (2010, ⟨1, .on 1, .wall, 0⟩)⟩,
     ⟨-28800, .byRules unitedStates, none⟩]),
   ("America/Toronto",
    [⟨-19052, .fixed 0, some (1895, ⟨1, .on 1, .wall, 0⟩)⟩,
     ⟨-18000, .byRules canada, some (1919, ⟨1, .on 1, .wall, 0⟩)⟩,
     ⟨-18000, .byRules toronto, some (1942, ⟨2, .on 9, .standard, 7200⟩)⟩,
     ⟨-18000, .byRules canada, some (1946, ⟨1, .on 1, .wall, 0⟩)⟩,
     ⟨-18000, .byRules toronto, some (1974, ⟨1, .on 1, .wall, 0⟩)⟩,
     ⟨-18000, .byRules canada, none⟩]),
   ("America/Vancouver",
    [⟨-29548, .fixed 0, some (1884, ⟨1, .on 1, .wall, 0⟩)⟩,
     ⟨-28800, .byRules vancouver, some (1987, ⟨1, .on 1, .wall, 0⟩)⟩,
     ⟨-28800, .byRules canada, none⟩]),
   ("America/Whitehorse",
    [⟨-32412, .fixed 0, some (1900, ⟨8, .on 20, .wall, 0⟩)⟩,
     ⟨-32400, .byRules northwestTerritories, some (1965, ⟨1, .on 1, .wall, 0⟩)⟩,
     ⟨-32400, .byRules yukon, some (1966, ⟨2, .on 27, .wall, 0⟩)⟩,
     ⟨-28800, .fixed 0, some (1980, ⟨1, .on 1, .wall, 0⟩)⟩,
     ⟨-28800, .byRules canada, some (2020, ⟨11, .on 1, .wall, 0⟩)⟩,
     ⟨-25200, .fixed 0, none⟩]),
   ("America/Winnipeg",
    [⟨-23316, .fixed 0, some (1887, ⟨7, .on 16, .wall, 0⟩)⟩,
     ⟨-21600, .byRules winnipeg, some (2006, ⟨1, .on 1, .wall, 0⟩)⟩,
     ⟨-21600, .byRules canada, none⟩])]

def americaZones4 : List (String × List Era) :=
  [("America/Yakutat",
    [⟨52865, .fixed 0, some (1867, ⟨10, .on 19, .wall, 54738⟩)⟩,
     ⟨-33535, .fixed 0, some (1900, ⟨8, .on 20, .wall, 43200⟩)⟩,
     ⟨-32400, .fixed 0, some (1942, ⟨1, .on 1, .wall, 0⟩)⟩,
     ⟨-32400, .byRules unitedStates, some (1946, ⟨1, .on 1, .wall, 0⟩)⟩,
     ⟨-32400, .fixed 0, some (1969, ⟨1, .on 1, .wall, 0⟩)⟩,
     ⟨-32400, .byRules unitedStates, some (1983, ⟨11, .on 30, .wall, 0⟩)⟩,
     ⟨-32400, .byRules unitedStates, none⟩])]

def americaZones : List (String × List Era) :=
  americaZones1 ++ americaZones2 ++ americaZones3 ++ americaZones4

end Punctual.ZoneTable
