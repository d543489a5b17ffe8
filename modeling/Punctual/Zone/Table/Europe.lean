import Punctual.Zone.Table.Shared

/-! The histories of the time zones of Europe. -/
namespace Punctual.ZoneTable

def britain : List SavingRule :=
  [⟨1916, 1916, ⟨5, .on 21, .standard, 7200⟩, 3600⟩,
   ⟨1916, 1916, ⟨10, .on 1, .standard, 7200⟩, 0⟩,
   ⟨1917, 1917, ⟨4, .on 8, .standard, 7200⟩, 3600⟩,
   ⟨1917, 1917, ⟨9, .on 17, .standard, 7200⟩, 0⟩,
   ⟨1918, 1918, ⟨3, .on 24, .standard, 7200⟩, 3600⟩,
   ⟨1918, 1918, ⟨9, .on 30, .standard, 7200⟩, 0⟩,
   ⟨1919, 1919, ⟨3, .on 30, .standard, 7200⟩, 3600⟩,
   ⟨1919, 1919, ⟨9, .on 29, .standard, 7200⟩, 0⟩,
   ⟨1920, 1920, ⟨3, .on 28, .standard, 7200⟩, 3600⟩,
   ⟨1920, 1920, ⟨10, .on 25, .standard, 7200⟩, 0⟩,
   ⟨1921, 1921, ⟨4, .on 3, .standard, 7200⟩, 3600⟩,
   ⟨1921, 1921, ⟨10, .on 3, .standard, 7200⟩, 0⟩,
   ⟨1922, 1922, ⟨3, .on 26, .standard, 7200⟩, 3600⟩,
   ⟨1922, 1922, ⟨10, .on 8, .standard, 7200⟩, 0⟩,
   ⟨1923, 1923, ⟨4, .onOrAfter .sun 16, .standard, 7200⟩, 3600⟩,
   ⟨1923, 1924, ⟨9, .onOrAfter .sun 16, .standard, 7200⟩, 0⟩,
   ⟨1924, 1924, ⟨4, .onOrAfter .sun 9, .standard, 7200⟩, 3600⟩,
   ⟨1925, 1926, ⟨4, .onOrAfter .sun 16, .standard, 7200⟩, 3600⟩,
   ⟨1925, 1938, ⟨10, .onOrAfter .sun 2, .standard, 7200⟩, 0⟩,
   ⟨1927, 1927, ⟨4, .onOrAfter .sun 9, .standard, 7200⟩, 3600⟩,
   ⟨1928, 1929, ⟨4, .onOrAfter .sun 16, .standard, 7200⟩, 3600⟩,
   ⟨1930, 1930, ⟨4, .onOrAfter .sun 9, .standard, 7200⟩, 3600⟩,
   ⟨1931, 1932, ⟨4, .onOrAfter .sun 16, .standard, 7200⟩, 3600⟩,
   ⟨1933, 1933, ⟨4, .onOrAfter .sun 9, .standard, 7200⟩, 3600⟩,
   ⟨1934, 1934, ⟨4, .onOrAfter .sun 16, .standard, 7200⟩, 3600⟩,
   ⟨1935, 1935, ⟨4, .onOrAfter .sun 9, .standard, 7200⟩, 3600⟩,
   ⟨1936, 1937, ⟨4, .onOrAfter .sun 16, .standard, 7200⟩, 3600⟩,
   ⟨1938, 1938, ⟨4, .onOrAfter .sun 9, .standard, 7200⟩, 3600⟩,
   ⟨1939, 1939, ⟨4, .onOrAfter .sun 16, .standard, 7200⟩, 3600⟩,
   ⟨1939, 1939, ⟨11, .onOrAfter .sun 16, .standard, 7200⟩, 0⟩,
   ⟨1940, 1940, ⟨2, .onOrAfter .sun 23, .standard, 7200⟩, 3600⟩,
   ⟨1941, 1941, ⟨5, .onOrAfter .sun 2, .standard, 3600⟩, 7200⟩,
   ⟨1941, 1943, ⟨8, .onOrAfter .sun 9, .standard, 3600⟩, 3600⟩,
   ⟨1942, 1944, ⟨4, .onOrAfter .sun 2, .standard, 3600⟩, 7200⟩,
   ⟨1944, 1944, ⟨9, .onOrAfter .sun 16, .standard, 3600⟩, 3600⟩,
   ⟨1945, 1945, ⟨4, .onOrAfter .mon 2, .standard, 3600⟩, 7200⟩,
   ⟨1945, 1945, ⟨7, .onOrAfter .sun 9, .standard, 3600⟩, 3600⟩,
   ⟨1945, 1946, ⟨10, .onOrAfter .sun 2, .standard, 7200⟩, 0⟩,
   ⟨1946, 1946, ⟨4, .onOrAfter .sun 9, .standard, 7200⟩, 3600⟩,
   ⟨1947, 1947, ⟨3, .on 16, .standard, 7200⟩, 3600⟩,
   ⟨1947, 1947, ⟨4, .on 13, .standard, 3600⟩, 7200⟩,
   ⟨1947, 1947, ⟨8, .on 10, .standard, 3600⟩, 3600⟩,
   ⟨1947, 1947, ⟨11, .on 2, .standard, 7200⟩, 0⟩,
   ⟨1948, 1948, ⟨3, .on 14, .standard, 7200⟩, 3600⟩,
   ⟨1948, 1948, ⟨10, .on 31, .standard, 7200⟩, 0⟩,
   ⟨1949, 1949, ⟨4, .on 3, .standard, 7200⟩, 3600⟩,
   ⟨1949, 1949, ⟨10, .on 30, .standard, 7200⟩, 0⟩,
   ⟨1950, 1952, ⟨4, .onOrAfter .sun 14, .standard, 7200⟩, 3600⟩,
   ⟨1950, 1952, ⟨10, .onOrAfter .sun 21, .standard, 7200⟩, 0⟩,
   ⟨1953, 1953, ⟨4, .onOrAfter .sun 16, .standard, 7200⟩, 3600⟩,
   ⟨1953, 1960, ⟨10, .onOrAfter .sun 2, .standard, 7200⟩, 0⟩,
   ⟨1954, 1954, ⟨4, .onOrAfter .sun 9, .standard, 7200⟩, 3600⟩,
   ⟨1955, 1956, ⟨4, .onOrAfter .sun 16, .standard, 7200⟩, 3600⟩,
   ⟨1957, 1957, ⟨4, .onOrAfter .sun 9, .standard, 7200⟩, 3600⟩,
   ⟨1958, 1959, ⟨4, .onOrAfter .sun 16, .standard, 7200⟩, 3600⟩,
   ⟨1960, 1960, ⟨4, .onOrAfter .sun 9, .standard, 7200⟩, 3600⟩,
   ⟨1961, 1963, ⟨3, .last .sun, .standard, 7200⟩, 3600⟩,
   ⟨1961, 1968, ⟨10, .onOrAfter .sun 23, .standard, 7200⟩, 0⟩,
   ⟨1964, 1967, ⟨3, .onOrAfter .sun 19, .standard, 7200⟩, 3600⟩,
   ⟨1968, 1968, ⟨2, .on 18, .standard, 7200⟩, 3600⟩,
   ⟨1972, 1980, ⟨3, .onOrAfter .sun 16, .standard, 7200⟩, 3600⟩,
   ⟨1972, 1980, ⟨10, .onOrAfter .sun 23, .standard, 7200⟩, 0⟩,
   ⟨1981, 1995, ⟨3, .last .sun, .universal, 3600⟩, 3600⟩,
   ⟨1981, 1989, ⟨10, .onOrAfter .sun 23, .universal, 3600⟩, 0⟩,
   ⟨1990, 1995, ⟨10, .onOrAfter .sun 22, .universal, 3600⟩, 0⟩]

def westernEurope : List SavingRule :=
  [⟨1977, 1980, ⟨4, .onOrAfter .sun 1, .standard, 3600⟩, 3600⟩,
   ⟨1977, 1977, ⟨9, .last .sun, .standard, 3600⟩, 0⟩,
   ⟨1978, 1978, ⟨10, .on 1, .standard, 3600⟩, 0⟩,
   ⟨1979, 1995, ⟨9, .last .sun, .standard, 3600⟩, 0⟩,
   ⟨1981, 2099, ⟨3, .last .sun, .standard, 3600⟩, 3600⟩,
   ⟨1996, 2099, ⟨10, .last .sun, .standard, 3600⟩, 0⟩]

def albania : List SavingRule :=
  [⟨1940, 1940, ⟨6, .on 16, .wall, 0⟩, 3600⟩,
   ⟨1942, 1942, ⟨11, .on 2, .wall, 10800⟩, 0⟩,
   ⟨1943, 1943, ⟨3, .on 29, .wall, 7200⟩, 3600⟩,
   ⟨1943, 1943, ⟨4, .on 10, .wall, 10800⟩, 0⟩,
   ⟨1974, 1974, ⟨5, .on 4, .wall, 0⟩, 3600⟩,
   ⟨1974, 1974, ⟨10, .on 2, .wall, 0⟩, 0⟩,
   ⟨1975, 1975, ⟨5, .on 1, .wall, 0⟩, 3600⟩,
   ⟨1975, 1975, ⟨10, .on 2, .wall, 0⟩, 0⟩,
   ⟨1976, 1976, ⟨5, .on 2, .wall, 0⟩, 3600⟩,
   ⟨1976, 1976, ⟨10, .on 3, .wall, 0⟩, 0⟩,
   ⟨1977, 1977, ⟨5, .on 8, .wall, 0⟩, 3600⟩,
   ⟨1977, 1977, ⟨10, .on 2, .wall, 0⟩, 0⟩,
   ⟨1978, 1978, ⟨5, .on 6, .wall, 0⟩, 3600⟩,
   ⟨1978, 1978, ⟨10, .on 1, .wall, 0⟩, 0⟩,
   ⟨1979, 1979, ⟨5, .on 5, .wall, 0⟩, 3600⟩,
   ⟨1979, 1979, ⟨9, .on 30, .wall, 0⟩, 0⟩,
   ⟨1980, 1980, ⟨5, .on 3, .wall, 0⟩, 3600⟩,
   ⟨1980, 1980, ⟨10, .on 4, .wall, 0⟩, 0⟩,
   ⟨1981, 1981, ⟨4, .on 26, .wall, 0⟩, 3600⟩,
   ⟨1981, 1981, ⟨9, .on 27, .wall, 0⟩, 0⟩,
   ⟨1982, 1982, ⟨5, .on 2, .wall, 0⟩, 3600⟩,
   ⟨1982, 1982, ⟨10, .on 3, .wall, 0⟩, 0⟩,
   ⟨1983, 1983, ⟨4, .on 18, .wall, 0⟩, 3600⟩,
   ⟨1983, 1983, ⟨10, .on 1, .wall, 0⟩, 0⟩,
   ⟨1984, 1984, ⟨4, .on 1, .wall, 0⟩, 3600⟩]

def austria : List SavingRule :=
  [⟨1920, 1920, ⟨4, .on 5, .standard, 7200⟩, 3600⟩,
   ⟨1920, 1920, ⟨9, .on 13, .standard, 7200⟩, 0⟩,
   ⟨1946, 1946, ⟨4, .on 14, .standard, 7200⟩, 3600⟩,
   ⟨1946, 1946, ⟨10, .on 7, .standard, 7200⟩, 0⟩,
   ⟨1947, 1948, ⟨10, .onOrAfter .sun 1, .standard, 7200⟩, 0⟩,
   ⟨1947, 1947, ⟨4, .on 6, .standard, 7200⟩, 3600⟩,
   ⟨1948, 1948, ⟨4, .on 18, .standard, 7200⟩, 3600⟩,
   ⟨1980, 1980, ⟨4, .on 6, .wall, 0⟩, 3600⟩,
   ⟨1980, 1980, ⟨9, .on 28, .wall, 0⟩, 0⟩]

def belgium : List SavingRule :=
  [⟨1918, 1918, ⟨3, .on 9, .standard, 0⟩, 3600⟩,
   ⟨1918, 1919, ⟨10, .onOrAfter .sat 1, .standard, 82800⟩, 0⟩,
   ⟨1919, 1919, ⟨3, .on 1, .standard, 82800⟩, 3600⟩,
   ⟨1920, 1920, ⟨2, .on 14, .standard, 82800⟩, 3600⟩,
   ⟨1920, 1920, ⟨10, .on 23, .standard, 82800⟩, 0⟩,
   ⟨1921, 1921, ⟨3, .on 14, .standard, 82800⟩, 3600⟩,
   ⟨1921, 1921, ⟨10, .on 25, .standard, 82800⟩, 0⟩,
   ⟨1922, 1922, ⟨3, .on 25, .standard, 82800⟩, 3600⟩,
   ⟨1922, 1927, ⟨10, .onOrAfter .sat 1, .standard, 82800⟩, 0⟩,
   ⟨1923, 1923, ⟨4, .on 21, .standard, 82800⟩, 3600⟩,
   ⟨1924, 1924, ⟨3, .on 29, .standard, 82800⟩, 3600⟩,
   ⟨1925, 1925, ⟨4, .on 4, .standard, 82800⟩, 3600⟩,
   ⟨1926, 1926, ⟨4, .on 17, .standard, 82800⟩, 3600⟩,
   ⟨1927, 1927, ⟨4, .on 9, .standard, 82800⟩, 3600⟩,
   ⟨1928, 1928, ⟨4, .on 14, .standard, 82800⟩, 3600⟩,
   ⟨1928, 1938, ⟨10, .onOrAfter .sun 2, .standard, 7200⟩, 0⟩,
   ⟨1929, 1929, ⟨4, .on 21, .standard, 7200⟩, 3600⟩,
   ⟨1930, 1930, ⟨4, .on 13, .standard, 7200⟩, 3600⟩,
   ⟨1931, 1931, ⟨4, .on 19, .standard, 7200⟩, 3600⟩,
   ⟨1932, 1932, ⟨4, .on 3, .standard, 7200⟩, 3600⟩,
   ⟨1933, 1933, ⟨3, .on 26, .standard, 7200⟩, 3600⟩,
   ⟨1934, 1934, ⟨4, .on 8, .standard, 7200⟩, 3600⟩,
   ⟨1935, 1935, ⟨3, .on 31, .standard, 7200⟩, 3600⟩,
   ⟨1936, 1936, ⟨4, .on 19, .standard, 7200⟩, 3600⟩,
   ⟨1937, 1937, ⟨4, .on 4, .standard, 7200⟩, 3600⟩,
   ⟨1938, 1938, ⟨3, .on 27, .standard, 7200⟩, 3600⟩,
   ⟨1939, 1939, ⟨4, .on 16, .standard, 7200⟩, 3600⟩,
   ⟨1939, 1939, ⟨11, .on 19, .standard, 7200⟩, 0⟩,
   ⟨1940, 1940, ⟨2, .on 25, .standard, 7200⟩, 3600⟩,
   ⟨1944, 1944, ⟨9, .on 17, .standard, 7200⟩, 0⟩,
   ⟨1945, 1945, ⟨4, .on 2, .standard, 7200⟩, 3600⟩,
   ⟨1945, 1945, ⟨9, .on 16, .standard, 7200⟩, 0⟩,
   ⟨1946, 1946, ⟨5, .on 19, .standard, 7200⟩, 3600⟩,
   ⟨1946, 1946, ⟨10, .on 7, .standard, 7200⟩, 0⟩]

def bulgaria : List SavingRule :=
  [⟨1979, 1979, ⟨3, .on 31, .wall, 82800⟩, 3600⟩,
   ⟨1979, 1979, ⟨10, .on 1, .wall, 3600⟩, 0⟩,
   ⟨1980, 1982, ⟨4, .onOrAfter .sat 1, .wall, 82800⟩, 3600⟩,
   ⟨1980, 1980, ⟨9, .on 29, .wall, 3600⟩, 0⟩,
   ⟨1981, 1981, ⟨9, .on 27, .wall, 7200⟩, 0⟩]

def czech : List SavingRule :=
  [⟨1945, 1945, ⟨4, .onOrAfter .mon 1, .standard, 7200⟩, 3600⟩,
   ⟨1945, 1945, ⟨10, .on 1, .standard, 7200⟩, 0⟩,
   ⟨1946, 1946, ⟨5, .on 6, .standard, 7200⟩, 3600⟩,
   ⟨1946, 1949, ⟨10, .onOrAfter .sun 1, .standard, 7200⟩, 0⟩,
   ⟨1947, 1948, ⟨4, .onOrAfter .sun 15, .standard, 7200⟩, 3600⟩,
   ⟨1949, 1949, ⟨4, .on 9, .standard, 7200⟩, 3600⟩]

def finland : List SavingRule :=
  [⟨1942, 1942, ⟨4, .on 2, .wall, 86400⟩, 3600⟩,
   ⟨1942, 1942, ⟨10, .on 4, .wall, 3600⟩, 0⟩,
   ⟨1981, 1982, ⟨3, .last .sun, .wall, 7200⟩, 3600⟩,
   ⟨1981, 1982, ⟨9, .last .sun, .wall, 10800⟩, 0⟩]

def france : List SavingRule :=
  [⟨1916, 1916, ⟨6, .on 14, .standard, 82800⟩, 3600⟩,
   ⟨1916, 1919, ⟨10, .onOrAfter .sun 1, .standard, 82800⟩, 0⟩,
   ⟨1917, 1917, ⟨3, .on 24, .standard, 82800⟩, 3600⟩,
   ⟨1918, 1918, ⟨3, .on 9, .standard, 82800⟩, 3600⟩,
   ⟨1919, 1919, ⟨3, .on 1, .standard, 82800⟩, 3600⟩,
   ⟨1920, 1920, ⟨2, .on 14, .standard, 82800⟩, 3600⟩,
   ⟨1920, 1920, ⟨10, .on 23, .standard, 82800⟩, 0⟩,
   ⟨1921, 1921, ⟨3, .on 14, .standard, 82800⟩, 3600⟩,
   ⟨1921, 1921, ⟨10, .on 25, .standard, 82800⟩, 0⟩,
   ⟨1922, 1922, ⟨3, .on 25, .standard, 82800⟩, 3600⟩,
   ⟨1922, 1938, ⟨10, .onOrAfter .sat 1, .standard, 82800⟩, 0⟩,
   ⟨1923, 1923, ⟨5, .on 26, .standard, 82800⟩, 3600⟩,
   ⟨1924, 1924, ⟨3, .on 29, .standard, 82800⟩, 3600⟩,
   ⟨1925, 1925, ⟨4, .on 4, .standard, 82800⟩, 3600⟩,
   ⟨1926, 1926, ⟨4, .on 17, .standard, 82800⟩, 3600⟩,
   ⟨1927, 1927, ⟨4, .on 9, .standard, 82800⟩, 3600⟩,
   ⟨1928, 1928, ⟨4, .on 14, .standard, 82800⟩, 3600⟩,
   ⟨1929, 1929, ⟨4, .on 20, .standard, 82800⟩, 3600⟩,
   ⟨1930, 1930, ⟨4, .on 12, .standard, 82800⟩, 3600⟩,
   ⟨1931, 1931, ⟨4, .on 18, .standard, 82800⟩, 3600⟩,
   ⟨1932, 1932, ⟨4, .on 2, .standard, 82800⟩, 3600⟩,
   ⟨1933, 1933, ⟨3, .on 25, .standard, 82800⟩, 3600⟩,
   ⟨1934, 1934, ⟨4, .on 7, .standard, 82800⟩, 3600⟩,
   ⟨1935, 1935, ⟨3, .on 30, .standard, 82800⟩, 3600⟩,
   ⟨1936, 1936, ⟨4, .on 18, .standard, 82800⟩, 3600⟩,
   ⟨1937, 1937, ⟨4, .on 3, .standard, 82800⟩, 3600⟩,
   ⟨1938, 1938, ⟨3, .on 26, .standard, 82800⟩, 3600⟩,
   ⟨1939, 1939, ⟨4, .on 15, .standard, 82800⟩, 3600⟩,
   ⟨1939, 1939, ⟨11, .on 18, .standard, 82800⟩, 0⟩,
   ⟨1940, 1940, ⟨2, .on 25, .wall, 7200⟩, 3600⟩,
   ⟨1941, 1941, ⟨5, .on 5, .wall, 0⟩, 7200⟩,
   ⟨1941, 1941, ⟨10, .on 6, .wall, 0⟩, 3600⟩,
   ⟨1942, 1942, ⟨3, .on 9, .wall, 0⟩, 7200⟩,
   ⟨1942, 1942, ⟨11, .on 2, .wall, 10800⟩, 3600⟩,
   ⟨1943, 1943, ⟨3, .on 29, .wall, 7200⟩, 7200⟩,
   ⟨1943, 1943, ⟨10, .on 4, .wall, 10800⟩, 3600⟩,
   ⟨1944, 1944, ⟨4, .on 3, .wall, 7200⟩, 7200⟩,
   ⟨1944, 1944, ⟨10, .on 8, .wall, 3600⟩, 3600⟩,
   ⟨1945, 1945, ⟨4, .on 2, .wall, 7200⟩, 7200⟩,
   ⟨1945, 1945, ⟨9, .on 16, .wall, 10800⟩, 0⟩,
   ⟨1976, 1976, ⟨3, .on 28, .wall, 3600⟩, 3600⟩,
   ⟨1976, 1976, ⟨9, .on 26, .wall, 3600⟩, 0⟩]

def germany : List SavingRule :=
  [⟨1946, 1946, ⟨4, .on 14, .standard, 7200⟩, 3600⟩,
   ⟨1946, 1946, ⟨10, .on 7, .standard, 7200⟩, 0⟩,
   ⟨1947, 1949, ⟨10, .onOrAfter .sun 1, .standard, 7200⟩, 0⟩,
   ⟨1947, 1947, ⟨4, .on 6, .standard, 10800⟩, 3600⟩,
   ⟨1947, 1947, ⟨5, .on 11, .standard, 7200⟩, 7200⟩,
   ⟨1947, 1947, ⟨6, .on 29, .wall, 10800⟩, 3600⟩,
   ⟨1948, 1948, ⟨4, .on 18, .standard, 7200⟩, 3600⟩,
   ⟨1949, 1949, ⟨4, .on 10, .standard, 7200⟩, 3600⟩]

def sovietZone : List SavingRule :=
  [⟨1945, 1945, ⟨5, .on 24, .wall, 7200⟩, 7200⟩,
   ⟨1945, 1945, ⟨9, .on 24, .wall, 10800⟩, 3600⟩,
   ⟨1945, 1945, ⟨11, .on 18, .standard, 7200⟩, 0⟩]

def greece : List SavingRule :=
  [⟨1932, 1932, ⟨7, .on 7, .wall, 0⟩, 3600⟩,
   ⟨1932, 1932, ⟨9, .on 1, .wall, 0⟩, 0⟩,
   ⟨1941, 1941, ⟨4, .on 7, .wall, 0⟩, 3600⟩,
   ⟨1942, 1942, ⟨11, .on 2, .wall, 10800⟩, 0⟩,
   ⟨1943, 1943, ⟨3, .on 30, .wall, 0⟩, 3600⟩,
   ⟨1943, 1943, ⟨10, .on 4, .wall, 0⟩, 0⟩,
   ⟨1952, 1952, ⟨7, .on 1, .wall, 0⟩, 3600⟩,
   ⟨1952, 1952, ⟨11, .on 2, .wall, 0⟩, 0⟩,
   ⟨1975, 1975, ⟨4, .on 12, .standard, 0⟩, 3600⟩,
   ⟨1975, 1975, ⟨11, .on 26, .standard, 0⟩, 0⟩,
   ⟨1976, 1976, ⟨4, .on 11, .standard, 7200⟩, 3600⟩,
   ⟨1976, 1976, ⟨10, .on 10, .standard, 7200⟩, 0⟩,
   ⟨1977, 1978, ⟨4, .onOrAfter .sun 1, .standard, 7200⟩, 3600⟩,
   ⟨1977, 1977, ⟨9, .on 26, .standard, 7200⟩, 0⟩,
   ⟨1978, 1978, ⟨9, .on 24, .wall, 14400⟩, 0⟩,
   ⟨1979, 1979, ⟨4, .on 1, .wall, 32400⟩, 3600⟩,
   ⟨1979, 1979, ⟨9, .on 29, .wall, 7200⟩, 0⟩,
   ⟨1980, 1980, ⟨4, .on 1, .wall, 0⟩, 3600⟩,
   ⟨1980, 1980, ⟨9, .on 28, .wall, 0⟩, 0⟩]

def hungary : List SavingRule :=
  [⟨1918, 1919, ⟨4, .on 15, .wall, 7200⟩, 3600⟩,
   ⟨1918, 1920, ⟨9, .onOrAfter .mon 15, .wall, 10800⟩, 0⟩,
   ⟨1920, 1920, ⟨4, .on 5, .wall, 7200⟩, 3600⟩,
   ⟨1945, 1945, ⟨5, .on 1, .wall, 82800⟩, 3600⟩,
   ⟨1945, 1945, ⟨11, .on 1, .wall, 3600⟩, 0⟩,
   ⟨1946, 1946, ⟨3, .on 31, .standard, 7200⟩, 3600⟩,
   ⟨1946, 1946, ⟨10, .on 7, .wall, 7200⟩, 0⟩,
   ⟨1947, 1949, ⟨4, .onOrAfter .sun 4, .standard, 7200⟩, 3600⟩,
   ⟨1947, 1949, ⟨10, .onOrAfter .sun 1, .standard, 7200⟩, 0⟩,
   ⟨1954, 1954, ⟨5, .on 23, .wall, 0⟩, 3600⟩,
   ⟨1954, 1954, ⟨10, .on 3, .wall, 0⟩, 0⟩,
   ⟨1955, 1955, ⟨5, .on 22, .wall, 7200⟩, 3600⟩,
   ⟨1955, 1955, ⟨10, .on 2, .wall, 10800⟩, 0⟩,
   ⟨1956, 1957, ⟨6, .onOrAfter .sun 1, .wall, 7200⟩, 3600⟩,
   ⟨1956, 1957, ⟨9, .last .sun, .wall, 10800⟩, 0⟩,
   ⟨1980, 1980, ⟨4, .on 6, .wall, 0⟩, 3600⟩,
   ⟨1980, 1980, ⟨9, .on 28, .wall, 3600⟩, 0⟩,
   ⟨1981, 1983, ⟨3, .last .sun, .wall, 0⟩, 3600⟩,
   ⟨1981, 1983, ⟨9, .last .sun, .wall, 3600⟩, 0⟩]

def italy : List SavingRule :=
  [⟨1916, 1916, ⟨6, .on 3, .wall, 86400⟩, 3600⟩,
   ⟨1916, 1917, ⟨9, .on 30, .wall, 86400⟩, 0⟩,
   ⟨1917, 1917, ⟨3, .on 31, .wall, 86400⟩, 3600⟩,
   ⟨1918, 1918, ⟨3, .on 9, .wall, 86400⟩, 3600⟩,
   ⟨1918, 1918, ⟨10, .on 6, .wall, 86400⟩, 0⟩,
   ⟨1919, 1919, ⟨3, .on 1, .wall, 86400⟩, 3600⟩,
   ⟨1919, 1919, ⟨10, .on 4, .wall, 86400⟩, 0⟩,
   ⟨1920, 1920, ⟨3, .on 20, .wall, 86400⟩, 3600⟩,
   ⟨1920, 1920, ⟨9, .on 18, .wall, 86400⟩, 0⟩,
   ⟨1940, 1940, ⟨6, .on 14, .wall, 86400⟩, 3600⟩,
   ⟨1942, 1942, ⟨11, .on 2, .standard, 7200⟩, 0⟩,
   ⟨1943, 1943, ⟨3, .on 29, .standard, 7200⟩, 3600⟩,
   ⟨1943, 1943, ⟨10, .on 4, .standard, 7200⟩, 0⟩,
   ⟨1944, 1944, ⟨4, .on 2, .standard, 7200⟩, 3600⟩,
   ⟨1944, 1944, ⟨9, .on 17, .standard, 7200⟩, 0⟩,
   ⟨1945, 1945, ⟨4, .on 2, .wall, 7200⟩, 3600⟩,
   ⟨1945, 1945, ⟨9, .on 15, .wall, 3600⟩, 0⟩,
   ⟨1946, 1946, ⟨3, .on 17, .standard, 7200⟩, 3600⟩,
   ⟨1946, 1946, ⟨10, .on 6, .standard, 7200⟩, 0⟩,
   ⟨1947, 1947, ⟨3, .on 16, .standard, 0⟩, 3600⟩,
   ⟨1947, 1947, ⟨10, .on 5, .standard, 0⟩, 0⟩,
   ⟨1948, 1948, ⟨2, .on 29, .standard, 7200⟩, 3600⟩,
   ⟨1948, 1948, ⟨10, .on 3, .standard, 7200⟩, 0⟩,
   ⟨1966, 1968, ⟨5, .onOrAfter .sun 22, .standard, 0⟩, 3600⟩,
   ⟨1966, 1966, ⟨9, .on 24, .wall, 86400⟩, 0⟩,
   ⟨1967, 1969, ⟨9, .onOrAfter .sun 22, .standard, 0⟩, 0⟩,
   ⟨1969, 1969, ⟨6, .on 1, .standard, 0⟩, 3600⟩,
   ⟨1970, 1970, ⟨5, .on 31, .standard, 0⟩, 3600⟩,
   ⟨1970, 1970, ⟨9, .last .sun, .standard, 0⟩, 0⟩,
   ⟨1971, 1972, ⟨5, .onOrAfter .sun 22, .standard, 0⟩, 3600⟩,
   ⟨1971, 1971, ⟨9, .last .sun, .standard, 0⟩, 0⟩,
   ⟨1972, 1972, ⟨10, .on 1, .standard, 0⟩, 0⟩,
   ⟨1973, 1973, ⟨6, .on 3, .standard, 0⟩, 3600⟩,
   ⟨1973, 1974, ⟨9, .last .sun, .standard, 0⟩, 0⟩,
   ⟨1974, 1974, ⟨5, .on 26, .standard, 0⟩, 3600⟩,
   ⟨1975, 1975, ⟨6, .on 1, .standard, 0⟩, 3600⟩,
   ⟨1975, 1977, ⟨9, .last .sun, .standard, 0⟩, 0⟩,
   ⟨1976, 1976, ⟨5, .on 30, .standard, 0⟩, 3600⟩,
   ⟨1977, 1979, ⟨5, .onOrAfter .sun 22, .standard, 0⟩, 3600⟩,
   ⟨1978, 1978, ⟨10, .on 1, .standard, 0⟩, 0⟩,
   ⟨1979, 1979, ⟨9, .on 30, .standard, 0⟩, 0⟩]

def latvia : List SavingRule :=
  [⟨1989, 1996, ⟨3, .last .sun, .standard, 7200⟩, 3600⟩,
   ⟨1989, 1996, ⟨9, .last .sun, .standard, 7200⟩, 0⟩]

def malta : List SavingRule :=
  [⟨1973, 1973, ⟨3, .on 31, .standard, 0⟩, 3600⟩,
   ⟨1973, 1973, ⟨9, .on 29, .standard, 0⟩, 0⟩,
   ⟨1974, 1974, ⟨4, .on 21, .standard, 0⟩, 3600⟩,
   ⟨1974, 1974, ⟨9, .on 16, .standard, 0⟩, 0⟩,
   ⟨1975, 1979, ⟨4, .onOrAfter .sun 15, .wall, 7200⟩, 3600⟩,
   ⟨1975, 1980, ⟨9, .onOrAfter .sun 15, .wall, 7200⟩, 0⟩,
   ⟨1980, 1980, ⟨3, .on 31, .wall, 7200⟩, 3600⟩]

def moldova : List SavingRule :=
  [⟨1997, 2099, ⟨3, .last .sun, .wall, 7200⟩, 3600⟩,
   ⟨1997, 2099, ⟨10, .last .sun, .wall, 10800⟩, 0⟩]

def poland : List SavingRule :=
  [⟨1918, 1919, ⟨9, .on 16, .standard, 7200⟩, 0⟩,
   ⟨1919, 1919, ⟨4, .on 15, .standard, 7200⟩, 3600⟩,
   ⟨1944, 1944, ⟨4, .on 3, .standard, 7200⟩, 3600⟩,
   ⟨1944, 1944, ⟨10, .on 4, .wall, 7200⟩, 0⟩,
   ⟨1945, 1945, ⟨4, .on 29, .wall, 0⟩, 3600⟩,
   ⟨1945, 1945, ⟨11, .on 1, .wall, 0⟩, 0⟩,
   ⟨1946, 1946, ⟨4, .on 14, .standard, 0⟩, 3600⟩,
   ⟨1946, 1946, ⟨10, .on 7, .standard, 7200⟩, 0⟩,
   ⟨1947, 1947, ⟨5, .on 4, .standard, 7200⟩, 3600⟩,
   ⟨1947, 1949, ⟨10, .onOrAfter .sun 1, .standard, 7200⟩, 0⟩,
   ⟨1948, 1948, ⟨4, .on 18, .standard, 7200⟩, 3600⟩,
   ⟨1949, 1949, ⟨4, .on 10, .standard, 7200⟩, 3600⟩,
   ⟨1957, 1957, ⟨6, .on 2, .standard, 3600⟩, 3600⟩,
   ⟨1957, 1958, ⟨9, .last .sun, .standard, 3600⟩, 0⟩,
   ⟨1958, 1958, ⟨3, .on 30, .standard, 3600⟩, 3600⟩,
   ⟨1959, 1959, ⟨5, .on 31, .standard, 3600⟩, 3600⟩,
   ⟨1959, 1961, ⟨10, .onOrAfter .sun 1, .standard, 3600⟩, 0⟩,
   ⟨1960, 1960, ⟨4, .on 3, .standard, 3600⟩, 3600⟩,
   ⟨1961, 1964, ⟨5, .last .sun, .standard, 3600⟩, 3600⟩,
   ⟨1962, 1964, ⟨9, .last .sun, .standard, 3600⟩, 0⟩]

def romania : List SavingRule :=
  [⟨1932, 1932, ⟨5, .on 21, .standard, 0⟩, 3600⟩,
   ⟨1932, 1939, ⟨10, .onOrAfter .sun 1, .standard, 0⟩, 0⟩,
   ⟨1933, 1939, ⟨4, .onOrAfter .sun 2, .standard, 0⟩, 3600⟩,
   ⟨1979, 1979, ⟨5, .on 27, .wall, 0⟩, 3600⟩,
   ⟨1979, 1979, ⟨9, .last .sun, .wall, 0⟩, 0⟩,
   ⟨1980, 1980, ⟨4, .on 5, .wall, 82800⟩, 3600⟩,
   ⟨1980, 1980, ⟨9, .last .sun, .wall, 3600⟩, 0⟩,
   ⟨1991, 1993, ⟨3, .last .sun, .standard, 0⟩, 3600⟩,
   ⟨1991, 1993, ⟨9, .last .sun, .standard, 0⟩, 0⟩]

def switzerland : List SavingRule :=
  [⟨1941, 1942, ⟨5, .onOrAfter .mon 1, .wall, 3600⟩, 3600⟩,
   ⟨1941, 1942, ⟨10, .onOrAfter .mon 1, .wall, 7200⟩, 0⟩]

def turkey : List SavingRule :=
  [⟨1916, 1916, ⟨5, .on 1, .wall, 0⟩, 3600⟩,
   ⟨1916, 1916, ⟨10, .on 1, .wall, 0⟩, 0⟩,
   ⟨1920, 1920, ⟨3, .on 28, .wall, 0⟩, 3600⟩,
   ⟨1920, 1920, ⟨10, .on 25, .wall, 0⟩, 0⟩,
   ⟨1921, 1921, ⟨4, .on 3, .wall, 0⟩, 3600⟩,
   ⟨1921, 1921, ⟨10, .on 3, .wall, 0⟩, 0⟩,
   ⟨1922, 1922, ⟨3, .on 26, .wall, 0⟩, 3600⟩,
   ⟨1922, 1922, ⟨10, .on 8, .wall, 0⟩, 0⟩,
   ⟨1924, 1924, ⟨5, .on 13, .wall, 0⟩, 3600⟩,
   ⟨1924, 1925, ⟨10, .on 1, .wall, 0⟩, 0⟩,
   ⟨1925, 1925, ⟨5, .on 1, .wall, 0⟩, 3600⟩,
   ⟨1940, 1940, ⟨7, .on 1, .wall, 0⟩, 3600⟩,
   ⟨1940, 1940, ⟨10, .on 6, .wall, 0⟩, 0⟩,
   ⟨1940, 1940, ⟨12, .on 1, .wall, 0⟩, 3600⟩,
   ⟨1941, 1941, ⟨9, .on 21, .wall, 0⟩, 0⟩,
   ⟨1942, 1942, ⟨4, .on 1, .wall, 0⟩, 3600⟩,
   ⟨1945, 1945, ⟨10, .on 8, .wall, 0⟩, 0⟩,
   ⟨1946, 1946, ⟨6, .on 1, .wall, 0⟩, 3600⟩,
   ⟨1946, 1946, ⟨10, .on 1, .wall, 0⟩, 0⟩,
   ⟨1947, 1948, ⟨4, .onOrAfter .sun 16, .wall, 0⟩, 3600⟩,
   ⟨1947, 1951, ⟨10, .onOrAfter .sun 2, .wall, 0⟩, 0⟩,
   ⟨1949, 1949, ⟨4, .on 10, .wall, 0⟩, 3600⟩,
   ⟨1950, 1950, ⟨4, .on 16, .wall, 0⟩, 3600⟩,
   ⟨1951, 1951, ⟨4, .on 22, .wall, 0⟩, 3600⟩,
   ⟨1962, 1962, ⟨7, .on 15, .wall, 0⟩, 3600⟩,
   ⟨1963, 1963, ⟨10, .on 30, .wall, 0⟩, 0⟩,
   ⟨1964, 1964, ⟨5, .on 15, .wall, 0⟩, 3600⟩,
   ⟨1964, 1964, ⟨10, .on 1, .wall, 0⟩, 0⟩,
   ⟨1973, 1973, ⟨6, .on 3, .wall, 3600⟩, 3600⟩,
   ⟨1973, 1976, ⟨10, .onOrAfter .sun 31, .wall, 7200⟩, 0⟩,
   ⟨1974, 1974, ⟨3, .on 31, .wall, 7200⟩, 3600⟩,
   ⟨1975, 1975, ⟨3, .on 22, .wall, 7200⟩, 3600⟩,
   ⟨1976, 1976, ⟨3, .on 21, .wall, 7200⟩, 3600⟩,
   ⟨1977, 1978, ⟨4, .onOrAfter .sun 1, .wall, 7200⟩, 3600⟩,
   ⟨1977, 1978, ⟨10, .onOrAfter .sun 15, .wall, 7200⟩, 0⟩,
   ⟨1978, 1978, ⟨6, .on 29, .wall, 0⟩, 0⟩,
   ⟨1983, 1983, ⟨7, .on 31, .wall, 7200⟩, 3600⟩,
   ⟨1983, 1983, ⟨10, .on 2, .wall, 7200⟩, 0⟩,
   ⟨1985, 1985, ⟨4, .on 20, .standard, 3600⟩, 3600⟩,
   ⟨1985, 1985, ⟨9, .on 28, .standard, 3600⟩, 0⟩,
   ⟨1986, 1993, ⟨3, .last .sun, .standard, 3600⟩, 3600⟩,
   ⟨1986, 1995, ⟨9, .last .sun, .standard, 3600⟩, 0⟩,
   ⟨1994, 1994, ⟨3, .on 20, .standard, 3600⟩, 3600⟩,
   ⟨1995, 2006, ⟨3, .last .sun, .standard, 3600⟩, 3600⟩,
   ⟨1996, 2006, ⟨10, .last .sun, .standard, 3600⟩, 0⟩]

def europeZones : List (String × List Era) :=
  [("Europe/Andorra",
    [⟨364, .fixed 0, some (1901, ⟨1, .on 1, .wall, 0⟩)⟩,
     ⟨0, .fixed 0, some (1946, ⟨9, .on 30, .wall, 0⟩)⟩,
     ⟨3600, .fixed 0, some (1985, ⟨3, .on 31, .wall, 7200⟩)⟩,
     ⟨3600, .byRules europeanUnion, none⟩]),
   ("Europe/Astrakhan",
    [⟨11532, .fixed 0, some (1924, ⟨5, .on 1, .wall, 0⟩)⟩,
     ⟨10800, .fixed 0, some (1930, ⟨6, .on 21, .wall, 0⟩)⟩,
     ⟨14400, .byRules russia, some (1989, ⟨3, .on 26, .standard, 7200⟩)⟩,
     ⟨10800, .byRules russia, some (1991, ⟨3, .on 31, .standard, 7200⟩)⟩,
     ⟨14400, .fixed 0, some (1992, ⟨3, .on 29, .standard, 7200⟩)⟩,
     ⟨10800, .byRules russia, some (2011, ⟨3, .on 27, .standard, 7200⟩)⟩,
     ⟨14400, .fixed 0, some (2014, ⟨10, .on 26, .standard, 7200⟩)⟩,
     ⟨10800, .fixed 0, some (2016, ⟨3, .on 27, .standard, 7200⟩)⟩,
     ⟨14400, .fixed 0, none⟩]),
   ("Europe/Athens",
    [⟨5692, .fixed 0, some (1895, ⟨9, .on 14, .wall, 0⟩)⟩,
     ⟨5692, .fixed 0, some (1916, ⟨7, .on 28, .wall, 60⟩)⟩,
     ⟨7200, .byRules greece, some (1941, ⟨4, .on 30, .wall, 0⟩)⟩,
     ⟨3600, .byRules greece, some (1944, ⟨4, .on 4, .wall, 0⟩)⟩,
     ⟨7200, .byRules greece, some (1981, ⟨1, .on 1, .wall, 0⟩)⟩,
     ⟨7200, .byRules europeanUnion, none⟩]),
   ("Europe/Belgrade",
    [⟨4920, .fixed 0, some (1884, ⟨1, .on 1, .wall, 0⟩)⟩,
     ⟨3600, .fixed 0, some (1941, ⟨4, .on 18, .wall, 82800⟩)⟩,
     ⟨3600, .byRules centralEurope, some (1945, ⟨1, .on 1, .wall, 0⟩)⟩,
     ⟨3600, .fixed 0, some (1945, ⟨5, .on 8, .standard, 7200⟩)⟩,
     ⟨3600, .fixed 3600, some (1945, ⟨9, .on 16, .standard, 7200⟩)⟩,
     ⟨3600, .fixed 0, some (1982, ⟨11, .on 27, .wall, 0⟩)⟩,
     ⟨3600, .byRules europeanUnion, none⟩]),
   ("Europe/Berlin",
    [⟨3208, .fixed 0, some (1893, ⟨4, .on 1, .wall, 0⟩)⟩,
     ⟨3600, .byRules centralEurope, some (1945, ⟨5, .on 24, .wall, 7200⟩)⟩,
     ⟨3600, .byRules sovietZone, some (1946, ⟨1, .on 1, .wall, 0⟩)⟩,
     ⟨3600, .byRules germany, some (1980, ⟨1, .on 1, .wall, 0⟩)⟩,
     ⟨3600, .byRules europeanUnion, none⟩]),
   ("Europe/Brussels",
    [⟨1050, .fixed 0, some (1880, ⟨1, .on 1, .wall, 0⟩)⟩,
     ⟨1050, .fixed 0, some (1892, ⟨5, .on 1, .wall, 1050⟩)⟩,
     ⟨0, .fixed 0, some (1914, ⟨11, .on 8, .wall, 0⟩)⟩,
     ⟨3600, .fixed 0, some (1916, ⟨5, .on 1, .wall, 0⟩)⟩,
     ⟨3600, .byRules centralEurope, some (1918, ⟨11, .on 11, .universal, 39600⟩)⟩,
     ⟨0, .byRules belgium, some (1940, ⟨5, .on 20, .standard, 7200⟩)⟩,
     ⟨3600, .byRules centralEurope, some (1944, ⟨9, .on 3, .wall, 0⟩)⟩,
     ⟨3600, .byRules belgium, some (1977, ⟨1, .on 1, .wall, 0⟩)⟩,
     ⟨3600, .byRules europeanUnion, none⟩]),
   ("Europe/Bucharest",
    [⟨6264, .fixed 0, some (1891, ⟨10, .on 1, .wall, 0⟩)⟩,
     ⟨6264, .fixed 0, some (1931, ⟨7, .on 24, .wall, 0⟩)⟩,
     ⟨7200, .byRules romania, some (1981, ⟨3, .on 29, .standard, 7200⟩)⟩,
     ⟨7200, .byRules centralEurope, some (1991, ⟨1, .on 1, .wall, 0⟩)⟩,
     ⟨7200, .byRules romania, some (1994, ⟨1, .on 1, .wall, 0⟩)⟩,
     ⟨7200, .byRules easternEurope, some (1997, ⟨1, .on 1, .wall, 0⟩)⟩,
     ⟨7200, .byRules europeanUnion, none⟩]),
   ("Europe/Budapest",
    [⟨4580, .fixed 0, some (1890, ⟨11, .on 1, .wall, 0⟩)⟩,
     ⟨3600, .byRules centralEurope, some (1918, ⟨1, .on 1, .wall, 0⟩)⟩,
     ⟨3600, .byRules hungary, some (1941, ⟨4, .on 7, .wall, 82800⟩)⟩,
     ⟨3600, .byRules centralEurope, some (1945, ⟨1, .on 1, .wall, 0⟩)⟩,
     ⟨3600, .byRules hungary, some (1984, ⟨1, .on 1, .wall, 0⟩)⟩,
     ⟨3600, .byRules europeanUnion, none⟩]),
   ("Europe/Chisinau",
    [⟨6920, .fixed 0, some (1880, ⟨1, .on 1, .wall, 0⟩)⟩,
     ⟨6900, .fixed 0, some (1918, ⟨2, .on 15, .wall, 0⟩)⟩,
     ⟨6264, .fixed 0, some (1931, ⟨7, .on 24, .wall, 0⟩)⟩,
     ⟨7200, .byRules romania, some (1940, ⟨8, .on 15, .wall, 0⟩)⟩,
     ⟨7200, .fixed 3600, some (1941, ⟨7, .on 17, .wall, 0⟩)⟩,
     ⟨3600, .byRules centralEurope, some (1944, ⟨8, .on 24, .wall, 0⟩)⟩,
     ⟨10800, .byRules russia, some (1990, ⟨5, .on 6, .wall, 7200⟩)⟩,
     ⟨7200, .byRules russia, some (1992, ⟨1, .on 1, .wall, 0⟩)⟩,
     ⟨7200, .byRules easternEurope, some (1997, ⟨1, .on 1, .wall, 0⟩)⟩,
     ⟨7200, .byRules moldova, none⟩]),
   ("Europe/Dublin",
    [⟨-1521, .fixed 0, some (1880, ⟨8, .on 2, .wall, 0⟩)⟩,
     ⟨-1521, .fixed 0, some (1916, ⟨5, .on 21, .standard, 7200⟩)⟩,
     ⟨-1521, .fixed 3600, some (1916, ⟨10, .on 1, .standard, 7200⟩)⟩,
     ⟨0, .byRules britain, some (1921, ⟨12, .on 6, .wall, 0⟩)⟩,
     ⟨0, .byRules britain, some (1940, ⟨2, .on 25, .standard, 7200⟩)⟩,
     ⟨0, .fixed 3600, some (1946, ⟨10, .on 6, .standard, 7200⟩)⟩,
     ⟨0, .fixed 0, some (1947, ⟨3, .on 16, .standard, 7200⟩)⟩,
     ⟨0, .fixed 3600, some (1947, ⟨11, .on 2, .standard, 7200⟩)⟩,
     ⟨0, .fixed 0, some (1948, ⟨4, .on 18, .standard, 7200⟩)⟩,
     ⟨0, .byRules britain, some (1968, ⟨10, .on 27, .wall, 0⟩)⟩,
     ⟨3600, .fixed 0, some (1971, ⟨10, .on 31, .universal, 7200⟩)⟩,
     ⟨0, .byRules britain, some (1996, ⟨1, .on 1, .wall, 0⟩)⟩,
     ⟨0, .byRules europeanUnion, none⟩]),
   ("Europe/Gibraltar",
    [⟨-1284, .fixed 0, some (1880, ⟨8, .on 2, .wall, 0⟩)⟩,
     ⟨0, .byRules britain, some (1957, ⟨4, .on 14, .wall, 7200⟩)⟩,
     ⟨3600, .fixed 0, some (1982, ⟨1, .on 1, .wall, 0⟩)⟩,
     ⟨3600, .byRules europeanUnion, none⟩]),
   ("Europe/Helsinki",
    [⟨5989, .fixed 0, some (1878, ⟨5, .on 31, .wall, 0⟩)⟩,
     ⟨5989, .fixed 0, some (1921, ⟨5, .on 1, .wall, 0⟩)⟩,
     ⟨7200, .byRules finland, some (1983, ⟨1, .on 1, .wall, 0⟩)⟩,
     ⟨7200, .byRules europeanUnion, none⟩]),
   ("Europe/Istanbul",
    [⟨6952, .fixed 0, some (1880, ⟨1, .on 1, .wall, 0⟩)⟩,
     ⟨7016, .fixed 0, some (1910, ⟨10, .on 1, .wall, 0⟩)⟩,
     ⟨7200, .byRules turkey, some (1978, ⟨6, .on 29, .wall, 0⟩)⟩,
     ⟨10800, .byRules turkey, some (1984, ⟨11, .on 1, .wall, 7200⟩)⟩,
     ⟨7200, .byRules turkey, some (2007, ⟨1, .on 1, .wall, 0⟩)⟩,
     ⟨7200, .byRules europeanUnion, some (2011, ⟨3, .on 27, .universal, 3600⟩)⟩,
     ⟨7200, .fixed 0, some (2011, ⟨3, .on 28, .universal, 3600⟩)⟩,
     ⟨7200, .byRules europeanUnion, some (2014, ⟨3, .on 30, .universal, 3600⟩)⟩,
     ⟨7200, .fixed 0, some (2014, ⟨3, .on 31, .universal, 3600⟩)⟩,
     ⟨7200, .byRules europeanUnion, some (2015, ⟨10, .on 25, .universal, 3600⟩)⟩,
     ⟨7200, .fixed 3600, some (2015, ⟨11, .on 8, .universal, 3600⟩)⟩,
     ⟨7200, .byRules europeanUnion, some (2016, ⟨9, .on 7, .wall, 0⟩)⟩,
     ⟨10800, .fixed 0, none⟩]),
   ("Europe/Kaliningrad",
    [⟨4920, .fixed 0, some (1893, ⟨4, .on 1, .wall, 0⟩)⟩,
     ⟨3600, .byRules centralEurope, some (1945, ⟨4, .on 10, .wall, 0⟩)⟩,
     ⟨7200, .byRules poland, some (1946, ⟨4, .on 7, .wall, 0⟩)⟩,
     ⟨10800, .byRules russia, some (1989, ⟨3, .on 26, .standard, 7200⟩)⟩,
     ⟨7200, .byRules russia, some (2011, ⟨3, .on 27, .standard, 7200⟩)⟩,
     ⟨10800, .fixed 0, some (2014, ⟨10, .on 26, .standard, 7200⟩)⟩,
     ⟨7200, .fixed 0, none⟩]),
   ("Europe/Kirov",
    [⟨11928, .fixed 0, some (1919, ⟨7, .on 1, .universal, 0⟩)⟩,
     ⟨10800, .fixed 0, some (1930, ⟨6, .on 21, .wall, 0⟩)⟩,
     ⟨14400, .byRules russia, some (1989, ⟨3, .on 26, .standard, 7200⟩)⟩,
     ⟨10800, .byRules russia, some (1991, ⟨3, .on 31, .standard, 7200⟩)⟩,
     ⟨14400, .fixed 0, some (1992, ⟨3, .on 29, .standard, 7200⟩)⟩,
     ⟨10800, .byRules russia, some (2011, ⟨3, .on 27, .standard, 7200⟩)⟩,
     ⟨14400, .fixed 0, some (2014, ⟨10, .on 26, .standard, 7200⟩)⟩,
     ⟨10800, .fixed 0, none⟩]),
   ("Europe/Kyiv",
    [⟨7324, .fixed 0, some (1880, ⟨1, .on 1, .wall, 0⟩)⟩,
     ⟨7324, .fixed 0, some (1924, ⟨5, .on 2, .wall, 0⟩)⟩,
     ⟨7200, .fixed 0, some (1930, ⟨6, .on 21, .wall, 0⟩)⟩,
     ⟨10800, .fixed 0, some (1941, ⟨9, .on 20, .wall, 0⟩)⟩,
     ⟨3600, .byRules centralEurope, some (1943, ⟨11, .on 6, .wall, 0⟩)⟩,
     ⟨10800, .byRules russia, some (1990, ⟨7, .on 1, .wall, 7200⟩)⟩,
     ⟨7200, .fixed 3600, some (1991, ⟨9, .on 29, .wall, 10800⟩)⟩,
     ⟨7200, .byRules centralEurope, some (1996, ⟨5, .on 13, .wall, 0⟩)⟩,
     ⟨7200, .byRules europeanUnion, none⟩]),
   ("Europe/Lisbon",
    [⟨-2205, .fixed 0, some (1884, ⟨1, .on 1, .wall, 0⟩)⟩,
     ⟨-2205, .fixed 0, some (1912, ⟨1, .on 1, .universal, 0⟩)⟩,
     ⟨0, .byRules portugal, some (1966, ⟨10, .on 2, .standard, 7200⟩)⟩,
     ⟨3600, .fixed 0, some (1976, ⟨9, .on 26, .wall, 3600⟩)⟩,
     ⟨0, .byRules portugal, some (1986, ⟨1, .on 1, .wall, 0⟩)⟩,
     ⟨0, .byRules europeanUnion, some (1992, ⟨9, .on 27, .universal, 3600⟩)⟩,
     ⟨3600, .byRules europeanUnion, some (1996, ⟨3, .on 31, .universal, 3600⟩)⟩,
     ⟨0, .byRules europeanUnion, none⟩]),
   ("Europe/London",
    [⟨-75, .fixed 0, some (1847, ⟨12, .on 1, .wall, 0⟩)⟩,
     ⟨0, .byRules britain, some (1968, ⟨10, .on 27, .wall, 0⟩)⟩,
     ⟨3600, .fixed 0, some (1971, ⟨10, .on 31, .universal, 7200⟩)⟩,
     ⟨0, .byRules britain, some (1996, ⟨1, .on 1, .wall, 0⟩)⟩,
     ⟨0, .byRules europeanUnion, none⟩]),
   ("Europe/Madrid",
    [⟨-884, .fixed 0, some (1901, ⟨1, .on 1, .universal, 0⟩)⟩,
     ⟨0, .byRules spain, some (1940, ⟨3, .on 16, .wall, 82800⟩)⟩,
     ⟨3600, .byRules spain, some (1979, ⟨1, .on 1, .wall, 0⟩)⟩,
     ⟨3600, .byRules europeanUnion, none⟩]),
   ("Europe/Malta",
    [⟨3484, .fixed 0, some (1893, ⟨11, .on 2, .wall, 0⟩)⟩,
     ⟨3600, .byRules italy, some (1973, ⟨3, .on 31, .wall, 0⟩)⟩,
     ⟨3600, .byRules malta, some (1981, ⟨1, .on 1, .wall, 0⟩)⟩,
     ⟨3600, .byRules europeanUnion, none⟩]),
   ("Europe/Minsk",
    [⟨6616, .fixed 0, some (1880, ⟨1, .on 1, .wall, 0⟩)⟩,
     ⟨6600, .fixed 0, some (1924, ⟨5, .on 2, .wall, 0⟩)⟩,
     ⟨7200, .fixed 0, some (1930, ⟨6, .on 21, .wall, 0⟩)⟩,
     ⟨10800, .fixed 0, some (1941, ⟨6, .on 28, .wall, 0⟩)⟩,
     ⟨3600, .byRules centralEurope, some (1944, ⟨7, .on 3, .wall, 0⟩)⟩,
     ⟨10800, .byRules russia, some (1990, ⟨1, .on 1, .wall, 0⟩)⟩,
     ⟨10800, .fixed 0, some (1991, ⟨3, .on 31, .standard, 7200⟩)⟩,
     ⟨7200, .byRules russia, some (2011, ⟨3, .on 27, .standard, 7200⟩)⟩,
     ⟨10800, .fixed 0, none⟩]),
   ("Europe/Moscow",
    [⟨9017, .fixed 0, some (1880, ⟨1, .on 1, .wall, 0⟩)⟩,
     ⟨9017, .fixed 0, some (1916, ⟨7, .on 3, .wall, 0⟩)⟩,
     ⟨9079, .byRules russia, some (1919, ⟨7, .on 1, .universal, 0⟩)⟩,
     ⟨10800, .byRules russia, some (1921, ⟨10, .on 1, .wall, 0⟩)⟩,
     ⟨10800, .byRules russia, some (1922, ⟨10, .on 1, .wall, 0⟩)⟩,
     ⟨7200, .fixed 0, some (1930, ⟨6, .on 21, .wall, 0⟩)⟩,
     ⟨10800, .byRules russia, some (1991, ⟨3, .on 31, .standard, 7200⟩)⟩,
     ⟨7200, .byRules russia, some (1992, ⟨1, .on 19, .standard, 7200⟩)⟩,
     ⟨10800, .byRules russia, some (2011, ⟨3, .on 27, .standard, 7200⟩)⟩,
     ⟨14400, .fixed 0, some (2014, ⟨10, .on 26, .standard, 7200⟩)⟩,
     ⟨10800, .fixed 0, none⟩]),
   ("Europe/Paris",
    [⟨561, .fixed 0, some (1891, ⟨3, .on 16, .wall, 0⟩)⟩,
     ⟨561, .fixed 0, some (1911, ⟨3, .on 11, .wall, 0⟩)⟩,
     ⟨0, .byRules france, some (1940, ⟨6, .on 14, .wall, 82800⟩)⟩,
     ⟨3600, .byRules centralEurope, some (1944, ⟨8, .on 25, .wall, 0⟩)⟩,
     ⟨0, .byRules france, some (1945, ⟨9, .on 16, .wall, 10800⟩)⟩,
     ⟨3600, .byRules france, some (1977, ⟨1, .on 1, .wall, 0⟩)⟩,
     ⟨3600, .byRules europeanUnion, none⟩]),
   ("Europe/Prague",
    [⟨3464, .fixed 0, some (1850, ⟨1, .on 1, .wall, 0⟩)⟩,
     ⟨3464, .fixed 0, some (1891, ⟨10, .on 1, .wall, 0⟩)⟩,
     ⟨3600, .byRules centralEurope, some (1945, ⟨5, .on 9, .wall, 0⟩)⟩,
     ⟨3600, .byRules czech, some (1946, ⟨12, .on 1, .wall, 10800⟩)⟩,
     ⟨0, .fixed 0, some (1947, ⟨2, .on 23, .wall, 7200⟩)⟩,
     ⟨3600, .byRules czech, some (1979, ⟨1, .on 1, .wall, 0⟩)⟩,
     ⟨3600, .byRules europeanUnion, none⟩]),
   ("Europe/Riga",
    [⟨5794, .fixed 0, some (1880, ⟨1, .on 1, .wall, 0⟩)⟩,
     ⟨5794, .fixed 0, some (1918, ⟨4, .on 15, .wall, 7200⟩)⟩,
     ⟨5794, .fixed 3600, some (1918, ⟨9, .on 16, .wall, 10800⟩)⟩,
     ⟨5794, .fixed 0, some (1919, ⟨4, .on 1, .wall, 7200⟩)⟩,
     ⟨5794, .fixed 3600, some (1919, ⟨5, .on 22, .wall, 10800⟩)⟩,
     ⟨5794, .fixed 0, some (1926, ⟨5, .on 11, .wall, 0⟩)⟩,
     ⟨7200, .fixed 0, some (1940, ⟨8, .on 5, .wall, 0⟩)⟩,
     ⟨10800, .fixed 0, some (1941, ⟨7, .on 1, .wall, 0⟩)⟩,
     ⟨3600, .byRules centralEurope, some (1944, ⟨10, .on 13, .wall, 0⟩)⟩,
     ⟨10800, .byRules russia, some (1989, ⟨3, .last .sun, .standard, 7200⟩)⟩,
     ⟨7200, .fixed 3600, some (1989, ⟨9, .last .sun, .standard, 7200⟩)⟩,
     ⟨7200, .byRules latvia, some (1997, ⟨1, .on 21, .wall, 0⟩)⟩,
     ⟨7200, .byRules europeanUnion, some (2000, ⟨2, .on 29, .wall, 0⟩)⟩,
     ⟨7200, .fixed 0, some (2001, ⟨1, .on 2, .wall, 0⟩)⟩,
     ⟨7200, .byRules europeanUnion, none⟩]),
   ("Europe/Rome",
    [⟨2996, .fixed 0, some (1866, ⟨12, .on 12, .wall, 0⟩)⟩,
     ⟨2996, .fixed 0, some (1893, ⟨10, .on 31, .universal, 82800⟩)⟩,
     ⟨3600, .byRules italy, some (1943, ⟨9, .on 10, .wall, 0⟩)⟩,
     ⟨3600, .byRules centralEurope, some (1944, ⟨6, .on 4, .wall, 0⟩)⟩,
     ⟨3600, .byRules italy, some (1980, ⟨1, .on 1, .wall, 0⟩)⟩,
     ⟨3600, .byRules europeanUnion, none⟩]),
   ("Europe/Samara",
    [⟨12020, .fixed 0, some (1919, ⟨7, .on 1, .universal, 0⟩)⟩,
     ⟨10800, .fixed 0, some (1930, ⟨6, .on 21, .wall, 0⟩)⟩,
     ⟨14400, .fixed 0, some (1935, ⟨1, .on 27, .wall, 0⟩)⟩,
     ⟨14400, .byRules russia, some (1989, ⟨3, .on 26, .standard, 7200⟩)⟩,
     ⟨10800, .byRules russia, some (1991, ⟨3, .on 31, .standard, 7200⟩)⟩,
     ⟨7200, .byRules russia, some (1991, ⟨9, .on 29, .standard, 7200⟩)⟩,
     ⟨10800, .fixed 0, some (1991, ⟨10, .on 20, .wall, 10800⟩)⟩,
     ⟨14400, .byRules russia, some (2010, ⟨3, .on 28, .standard, 7200⟩)⟩,
     ⟨10800, .byRules russia, some (2011, ⟨3, .on 27, .standard, 7200⟩)⟩,
     ⟨14400, .fixed 0, none⟩]),
   ("Europe/Saratov",
    [⟨11058, .fixed 0, some (1919, ⟨7, .on 1, .universal, 0⟩)⟩,
     ⟨10800, .fixed 0, some (1930, ⟨6, .on 21, .wall, 0⟩)⟩,
     ⟨14400, .byRules russia, some (1988, ⟨3, .on 27, .standard, 7200⟩)⟩,
     ⟨10800, .byRules russia, some (1991, ⟨3, .on 31, .standard, 7200⟩)⟩,
     ⟨14400, .fixed 0, some (1992, ⟨3, .on 29, .standard, 7200⟩)⟩,
     ⟨10800, .byRules russia, some (2011, ⟨3, .on 27, .standard, 7200⟩)⟩,
     ⟨14400, .fixed 0, some (2014, ⟨10, .on 26, .standard, 7200⟩)⟩,
     ⟨10800, .fixed 0, some (2016, ⟨12, .on 4, .standard, 7200⟩)⟩,
     ⟨14400, .fixed 0, none⟩]),
   ("Europe/Simferopol",
    [⟨8184, .fixed 0, some (1880, ⟨1, .on 1, .wall, 0⟩)⟩,
     ⟨8160, .fixed 0, some (1924, ⟨5, .on 2, .wall, 0⟩)⟩,
     ⟨7200, .fixed 0, some (1930, ⟨6, .on 21, .wall, 0⟩)⟩,
     ⟨10800, .fixed 0, some (1941, ⟨11, .on 1, .wall, 0⟩)⟩,
     ⟨3600, .byRules centralEurope, some (1944, ⟨4, .on 13, .wall, 0⟩)⟩,
     ⟨10800, .byRules russia, some (1990, ⟨1, .on 1, .wall, 0⟩)⟩,
     ⟨10800, .fixed 0, some (1990, ⟨7, .on 1, .wall, 7200⟩)⟩,
     ⟨7200, .fixed 0, some (1992, ⟨3, .on 20, .wall, 0⟩)⟩,
     ⟨7200, .byRules centralEurope, some (1994, ⟨5, .on 1, .wall, 0⟩)⟩,
     ⟨10800, .byRules centralEurope, some (1996, ⟨3, .on 31, .standard, 0⟩)⟩,
     ⟨10800, .fixed 3600, some (1996, ⟨10, .on 27, .standard, 10800⟩)⟩,
     ⟨10800, .fixed 0, some (1997, ⟨3, .last .sun, .universal, 3600⟩)⟩,
     ⟨7200, .byRules europeanUnion, some (2014, ⟨3, .on 30, .wall, 7200⟩)⟩,
     ⟨14400, .fixed 0, some (2014, ⟨10, .on 26, .standard, 7200⟩)⟩,
     ⟨10800, .fixed 0, none⟩]),
   ("Europe/Sofia",
    [⟨5596, .fixed 0, some (1880, ⟨1, .on 1, .wall, 0⟩)⟩,
     ⟨7016, .fixed 0, some (1894, ⟨11, .on 30, .wall, 0⟩)⟩,
     ⟨7200, .fixed 0, some (1942, ⟨11, .on 2, .wall, 10800⟩)⟩,
     ⟨3600, .byRules centralEurope, some (1945, ⟨1, .on 1, .wall, 0⟩)⟩,
     ⟨3600, .fixed 0, some (1945, ⟨4, .on 2, .wall, 10800⟩)⟩,
     ⟨7200, .fixed 0, some (1979, ⟨3, .on 31, .wall, 82800⟩)⟩,
     ⟨7200, .byRules bulgaria, some (1982, ⟨9, .on 26, .wall, 10800⟩)⟩,
     ⟨7200, .byRules centralEurope, some (1991, ⟨1, .on 1, .wall, 0⟩)⟩,
     ⟨7200, .byRules easternEurope, some (1997, ⟨1, .on 1, .wall, 0⟩)⟩,
     ⟨7200, .byRules europeanUnion, none⟩]),
   ("Europe/Tallinn",
    [⟨5940, .fixed 0, some (1880, ⟨1, .on 1, .wall, 0⟩)⟩,
     ⟨5940, .fixed 0, some (1918, ⟨2, .on 1, .wall, 0⟩)⟩,
     ⟨3600, .byRules centralEurope, some (1919, ⟨7, .on 1, .wall, 0⟩)⟩,
     ⟨5940, .fixed 0, some (1921, ⟨5, .on 1, .wall, 0⟩)⟩,
     ⟨7200, .fixed 0, some (1940, ⟨8, .on 6, .wall, 0⟩)⟩,
     ⟨10800, .fixed 0, some (1941, ⟨9, .on 15, .wall, 0⟩)⟩,
     ⟨3600, .byRules centralEurope, some (1944, ⟨9, .on 22, .wall, 0⟩)⟩,
     ⟨10800, .byRules russia, some (1989, ⟨3, .on 26, .standard, 7200⟩)⟩,
     ⟨7200, .fixed 3600, some (1989, ⟨9, .on 24, .standard, 7200⟩)⟩,
     ⟨7200, .byRules centralEurope, some (1998, ⟨9, .on 22, .wall, 0⟩)⟩,
     ⟨7200, .byRules europeanUnion, some (1999, ⟨10, .on 31, .wall, 14400⟩)⟩,
     ⟨7200, .fixed 0, some (2002, ⟨2, .on 21, .wall, 0⟩)⟩,
     ⟨7200, .byRules europeanUnion, none⟩]),
   ("Europe/Tirane",
    [⟨4760, .fixed 0, some (1914, ⟨1, .on 1, .wall, 0⟩)⟩,
     ⟨3600, .fixed 0, some (1940, ⟨6, .on 16, .wall, 0⟩)⟩,
     ⟨3600, .byRules albania, some (1984, ⟨7, .on 1, .wall, 0⟩)⟩,
     ⟨3600, .byRules europeanUnion, none⟩]),
   ("Europe/Ulyanovsk",
    [⟨11616, .fixed 0, some (1919, ⟨7, .on 1, .universal, 0⟩)⟩,
     ⟨10800, .fixed 0, some (1930, ⟨6, .on 21, .wall, 0⟩)⟩,
     ⟨14400, .byRules russia, some (1989, ⟨3, .on 26, .standard, 7200⟩)⟩,
     ⟨10800, .byRules russia, some (1991, ⟨3, .on 31, .standard, 7200⟩)⟩,
     ⟨7200, .byRules russia, some (1992, ⟨1, .on 19, .standard, 7200⟩)⟩,
     ⟨10800, .byRules russia, some (2011, ⟨3, .on 27, .standard, 7200⟩)⟩,
     ⟨14400, .fixed 0, some (2014, ⟨10, .on 26, .standard, 7200⟩)⟩,
     ⟨10800, .fixed 0, some (2016, ⟨3, .on 27, .standard, 7200⟩)⟩,
     ⟨14400, .fixed 0, none⟩]),
   ("Europe/Vienna",
    [⟨3921, .fixed 0, some (1893, ⟨4, .on 1, .wall, 0⟩)⟩,
     ⟨3600, .byRules centralEurope, some (1920, ⟨1, .on 1, .wall, 0⟩)⟩,
     ⟨3600, .byRules austria, some (1940, ⟨4, .on 1, .standard, 7200⟩)⟩,
     ⟨3600, .byRules centralEurope, some (1945, ⟨4, .on 2, .standard, 7200⟩)⟩,
     ⟨3600, .fixed 3600, some (1945, ⟨4, .on 12, .standard, 7200⟩)⟩,
     ⟨3600, .fixed 0, some (1946, ⟨1, .on 1, .wall, 0⟩)⟩,
     ⟨3600, .byRules austria, some (1981, ⟨1, .on 1, .wall, 0⟩)⟩,
     ⟨3600, .byRules europeanUnion, none⟩]),
   ("Europe/Vilnius",
    [⟨6076, .fixed 0, some (1880, ⟨1, .on 1, .wall, 0⟩)⟩,
     ⟨5040, .fixed 0, some (1917, ⟨1, .on 1, .wall, 0⟩)⟩,
     ⟨5736, .fixed 0, some (1919, ⟨10, .on 10, .wall, 0⟩)⟩,
     ⟨3600, .fixed 0, some (1920, ⟨7, .on 12, .wall, 0⟩)⟩,
     ⟨7200, .fixed 0, some (1920, ⟨10, .on 9, .wall, 0⟩)⟩,
     ⟨3600, .fixed 0, some (1940, ⟨8, .on 3, .wall, 0⟩)⟩,
     ⟨10800, .fixed 0, some (1941, ⟨6, .on 24, .wall, 0⟩)⟩,
     ⟨3600, .byRules centralEurope, some (1944, ⟨8, .on 1, .wall, 0⟩)⟩,
     ⟨10800, .byRules russia, some (1989, ⟨3, .on 26, .standard, 7200⟩)⟩,
     ⟨7200, .byRules russia, some (1991, ⟨9, .on 29, .standard, 7200⟩)⟩,
     ⟨7200, .byRules centralEurope, some (1998, ⟨1, .on 1, .wall, 0⟩)⟩,
     ⟨7200, .fixed 0, some (1998, ⟨3, .on 29, .universal, 3600⟩)⟩,
     ⟨3600, .byRules europeanUnion, some (1999, ⟨10, .on 31, .universal, 3600⟩)⟩,
     ⟨7200, .fixed 0, some (2003, ⟨1, .on 1, .wall, 0⟩)⟩,
     ⟨7200, .byRules europeanUnion, none⟩]),
   ("Europe/Volgograd",
    [⟨10660, .fixed 0, some (1920, ⟨1, .on 3, .wall, 0⟩)⟩,
     ⟨10800, .fixed 0, some (1930, ⟨6, .on 21, .wall, 0⟩)⟩,
     ⟨14400, .fixed 0, some (1961, ⟨11, .on 11, .wall, 0⟩)⟩,
     ⟨14400, .byRules russia, some (1988, ⟨3, .on 27, .standard, 7200⟩)⟩,
     ⟨10800, .byRules russia, some (1991, ⟨3, .on 31, .standard, 7200⟩)⟩,
     ⟨14400, .fixed 0, some (1992, ⟨3, .on 29, .standard, 7200⟩)⟩,
     ⟨10800, .byRules russia, some (2011, ⟨3, .on 27, .standard, 7200⟩)⟩,
     ⟨14400, .fixed 0, some (2014, ⟨10, .on 26, .standard, 7200⟩)⟩,
     ⟨10800, .fixed 0, some (2018, ⟨10, .on 28, .standard, 7200⟩)⟩,
     ⟨14400, .fixed 0, some (2020, ⟨12, .on 27, .standard, 7200⟩)⟩,
     ⟨10800, .fixed 0, none⟩]),
   ("Europe/Warsaw",
    [⟨5040, .fixed 0, some (1880, ⟨1, .on 1, .wall, 0⟩)⟩,
     ⟨5040, .fixed 0, some (1915, ⟨8, .on 5, .wall, 0⟩)⟩,
     ⟨3600, .byRules centralEurope, some (1918, ⟨9, .on 16, .wall, 10800⟩)⟩,
     ⟨7200, .byRules poland, some (1922, ⟨6, .on 1, .wall, 0⟩)⟩,
     ⟨3600, .byRules poland, some (1940, ⟨6, .on 23, .wall, 7200⟩)⟩,
     ⟨3600, .byRules centralEurope, some (1944, ⟨10, .on 1, .wall, 0⟩)⟩,
     ⟨3600, .byRules poland, some (1977, ⟨1, .on 1, .wall, 0⟩)⟩,
     ⟨3600, .byRules westernEurope, some (1988, ⟨1, .on 1, .wall, 0⟩)⟩,
     ⟨3600, .byRules europeanUnion, none⟩]),
   ("Europe/Zurich",
    [⟨2048, .fixed 0, some (1853, ⟨7, .on 16, .wall, 0⟩)⟩,
     ⟨1786, .fixed 0, some (1894, ⟨6, .on 1, .wall, 0⟩)⟩,
     ⟨3600, .byRules switzerland, some (1981, ⟨1, .on 1, .wall, 0⟩)⟩,
     ⟨3600, .byRules europeanUnion, none⟩])]

end Punctual.ZoneTable
