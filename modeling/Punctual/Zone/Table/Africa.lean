import Punctual.Zone.Table.Shared

/-! The histories of the time zones of Africa. -/
namespace Punctual.ZoneTable

def algeria : List SavingRule :=
  [⟨1916, 1916, ⟨6, .on 14, .standard, 82800⟩, 3600⟩,
   ⟨1916, 1919, ⟨10, .onOrAfter .sun 1, .standard, 82800⟩, 0⟩,
   ⟨1917, 1917, ⟨3, .on 24, .standard, 82800⟩, 3600⟩,
   ⟨1918, 1918, ⟨3, .on 9, .standard, 82800⟩, 3600⟩,
   ⟨1919, 1919, ⟨3, .on 1, .standard, 82800⟩, 3600⟩,
   ⟨1920, 1920, ⟨2, .on 14, .standard, 82800⟩, 3600⟩,
   ⟨1920, 1920, ⟨10, .on 23, .standard, 82800⟩, 0⟩,
   ⟨1921, 1921, ⟨3, .on 14, .standard, 82800⟩, 3600⟩,
   ⟨1921, 1921, ⟨6, .on 21, .standard, 82800⟩, 0⟩,
   ⟨1939, 1939, ⟨9, .on 11, .standard, 82800⟩, 3600⟩,
   ⟨1939, 1939, ⟨11, .on 19, .wall, 3600⟩, 0⟩,
   ⟨1944, 1945, ⟨4, .onOrAfter .mon 1, .wall, 7200⟩, 3600⟩,
   ⟨1944, 1944, ⟨10, .on 8, .wall, 7200⟩, 0⟩,
   ⟨1945, 1945, ⟨9, .on 16, .wall, 3600⟩, 0⟩,
   ⟨1971, 1971, ⟨4, .on 25, .standard, 82800⟩, 3600⟩,
   ⟨1971, 1971, ⟨9, .on 26, .standard, 82800⟩, 0⟩,
   ⟨1977, 1977, ⟨5, .on 6, .wall, 0⟩, 3600⟩,
   ⟨1977, 1977, ⟨10, .on 21, .wall, 0⟩, 0⟩,
   ⟨1978, 1978, ⟨3, .on 24, .wall, 3600⟩, 3600⟩,
   ⟨1978, 1978, ⟨9, .on 22, .wall, 10800⟩, 0⟩,
   ⟨1980, 1980, ⟨4, .on 25, .wall, 0⟩, 3600⟩,
   ⟨1980, 1980, ⟨10, .on 31, .wall, 7200⟩, 0⟩]

def libya : List SavingRule :=
  [⟨1951, 1951, ⟨10, .on 14, .wall, 7200⟩, 3600⟩,
   ⟨1952, 1952, ⟨1, .on 1, .wall, 0⟩, 0⟩,
   ⟨1953, 1953, ⟨10, .on 9, .wall, 7200⟩, 3600⟩,
   ⟨1954, 1954, ⟨1, .on 1, .wall, 0⟩, 0⟩,
   ⟨1955, 1955, ⟨9, .on 30, .wall, 0⟩, 3600⟩,
   ⟨1956, 1956, ⟨1, .on 1, .wall, 0⟩, 0⟩,
   ⟨1982, 1984, ⟨4, .on 1, .wall, 0⟩, 3600⟩,
   ⟨1982, 1985, ⟨10, .on 1, .wall, 0⟩, 0⟩,
   ⟨1985, 1985, ⟨4, .on 6, .wall, 0⟩, 3600⟩,
   ⟨1986, 1986, ⟨4, .on 4, .wall, 0⟩, 3600⟩,
   ⟨1986, 1986, ⟨10, .on 3, .wall, 0⟩, 0⟩,
   ⟨1987, 1989, ⟨4, .on 1, .wall, 0⟩, 3600⟩,
   ⟨1987, 1989, ⟨10, .on 1, .wall, 0⟩, 0⟩,
   ⟨1997, 1997, ⟨4, .on 4, .wall, 0⟩, 3600⟩,
   ⟨1997, 1997, ⟨10, .on 4, .wall, 0⟩, 0⟩,
   ⟨2013, 2013, ⟨3, .last .fri, .wall, 3600⟩, 3600⟩,
   ⟨2013, 2013, ⟨10, .last .fri, .wall, 7200⟩, 0⟩]

def morocco : List SavingRule :=
  [⟨1939, 1939, ⟨9, .on 12, .wall, 0⟩, 3600⟩,
   ⟨1939, 1939, ⟨11, .on 19, .wall, 0⟩, 0⟩,
   ⟨1940, 1940, ⟨2, .on 25, .wall, 0⟩, 3600⟩,
   ⟨1945, 1945, ⟨11, .on 18, .wall, 0⟩, 0⟩,
   ⟨1950, 1950, ⟨6, .on 11, .wall, 0⟩, 3600⟩,
   ⟨1950, 1950, ⟨10, .on 29, .wall, 0⟩, 0⟩,
   ⟨1967, 1967, ⟨6, .on 3, .wall, 43200⟩, 3600⟩,
   ⟨1967, 1967, ⟨10, .on 1, .wall, 0⟩, 0⟩,
   ⟨1974, 1974, ⟨6, .on 24, .wall, 0⟩, 3600⟩,
   ⟨1974, 1974, ⟨9, .on 1, .wall, 0⟩, 0⟩,
   ⟨1976, 1977, ⟨5, .on 1, .wall, 0⟩, 3600⟩,
   ⟨1976, 1976, ⟨8, .on 1, .wall, 0⟩, 0⟩,
   ⟨1977, 1977, ⟨9, .on 28, .wall, 0⟩, 0⟩,
   ⟨1978, 1978, ⟨6, .on 1, .wall, 0⟩, 3600⟩,
   ⟨1978, 1978, ⟨8, .on 4, .wall, 0⟩, 0⟩,
   ⟨2008, 2008, ⟨6, .on 1, .wall, 0⟩, 3600⟩,
   ⟨2008, 2008, ⟨9, .on 1, .wall, 0⟩, 0⟩,
   ⟨2009, 2009, ⟨6, .on 1, .wall, 0⟩, 3600⟩,
   ⟨2009, 2009, ⟨8, .on 21, .wall, 0⟩, 0⟩,
   ⟨2010, 2010, ⟨5, .on 2, .wall, 0⟩, 3600⟩,
   ⟨2010, 2010, ⟨8, .on 8, .wall, 0⟩, 0⟩,
   ⟨2011, 2011, ⟨4, .on 3, .wall, 0⟩, 3600⟩,
   ⟨2011, 2011, ⟨7, .on 31, .wall, 0⟩, 0⟩,
   ⟨2012, 2013, ⟨4, .last .sun, .wall, 7200⟩, 3600⟩,
   ⟨2012, 2012, ⟨7, .on 20, .wall, 10800⟩, 0⟩,
   ⟨2012, 2012, ⟨8, .on 20, .wall, 7200⟩, 3600⟩,
   ⟨2012, 2012, ⟨9, .on 30, .wall, 10800⟩, 0⟩,
   ⟨2013, 2013, ⟨7, .on 7, .wall, 10800⟩, 0⟩,
   ⟨2013, 2013, ⟨8, .on 10, .wall, 7200⟩, 3600⟩,
   ⟨2013, 2017, ⟨10, .last .sun, .wall, 10800⟩, 0⟩,
   ⟨2014, 2018, ⟨3, .last .sun, .wall, 7200⟩, 3600⟩,
   ⟨2014, 2014, ⟨6, .on 28, .wall, 10800⟩, 0⟩,
   ⟨2014, 2014, ⟨8, .on 2, .wall, 7200⟩, 3600⟩,
   ⟨2015, 2015, ⟨6, .on 14, .wall, 10800⟩, 0⟩,
   ⟨2015, 2015, ⟨7, .on 19, .wall, 7200⟩, 3600⟩,
   ⟨2016, 2016, ⟨6, .on 5, .wall, 10800⟩, 0⟩,
   ⟨2016, 2016, ⟨7, .on 10, .wall, 7200⟩, 3600⟩,
   ⟨2017, 2017, ⟨5, .on 21, .wall, 10800⟩, 0⟩,
   ⟨2017, 2017, ⟨7, .on 2, .wall, 7200⟩, 3600⟩,
   ⟨2018, 2018, ⟨5, .on 13, .wall, 10800⟩, 0⟩,
   ⟨2018, 2018, ⟨6, .on 17, .wall, 7200⟩, 3600⟩,
   ⟨2019, 2019, ⟨5, .on 5, .wall, 10800⟩, 0⟩,
   ⟨2019, 2019, ⟨6, .on 9, .wall, 7200⟩, 3600⟩,
   ⟨2020, 2020, ⟨4, .on 19, .wall, 10800⟩, 0⟩,
   ⟨2020, 2020, ⟨5, .on 31, .wall, 7200⟩, 3600⟩,
   ⟨2021, 2021, ⟨4, .on 11, .wall, 10800⟩, 0⟩,
   ⟨2021, 2021, ⟨5, .on 16, .wall, 7200⟩, 3600⟩,
   ⟨2022, 2022, ⟨3, .on 27, .wall, 10800⟩, 0⟩,
   ⟨2022, 2022, ⟨5, .on 8, .wall, 7200⟩, 3600⟩,
   ⟨2023, 2023, ⟨3, .on 19, .wall, 10800⟩, 0⟩,
   ⟨2023, 2023, ⟨4, .on 23, .wall, 7200⟩, 3600⟩,
   ⟨2024, 2024, ⟨3, .on 10, .wall, 10800⟩, 0⟩,
   ⟨2024, 2024, ⟨4, .on 14, .wall, 7200⟩, 3600⟩,
   ⟨2025, 2025, ⟨2, .on 23, .wall, 10800⟩, 0⟩,
   ⟨2025, 2025, ⟨4, .on 6, .wall, 7200⟩, 3600⟩,
   ⟨2026, 2026, ⟨2, .on 15, .wall, 10800⟩, 0⟩,
   ⟨2026, 2026, ⟨3, .on 22, .wall, 7200⟩, 3600⟩,
   ⟨2027, 2027, ⟨2, .on 7, .wall, 10800⟩, 0⟩,
   ⟨2027, 2027, ⟨3, .on 14, .wall, 7200⟩, 3600⟩,
   ⟨2028, 2028, ⟨1, .on 23, .wall, 10800⟩, 0⟩,
   ⟨2028, 2028, ⟨3, .on 5, .wall, 7200⟩, 3600⟩,
   ⟨2029, 2029, ⟨1, .on 14, .wall, 10800⟩, 0⟩,
   ⟨2029, 2029, ⟨2, .on 18, .wall, 7200⟩, 3600⟩,
   ⟨2029, 2029, ⟨12, .on 30, .wall, 10800⟩, 0⟩,
   ⟨2030, 2030, ⟨2, .on 10, .wall, 7200⟩, 3600⟩,
   ⟨2030, 2030, ⟨12, .on 22, .wall, 10800⟩, 0⟩,
   ⟨2031, 2031, ⟨1, .on 26, .wall, 7200⟩, 3600⟩,
   ⟨2031, 2031, ⟨12, .on 14, .wall, 10800⟩, 0⟩,
   ⟨2032, 2032, ⟨1, .on 18, .wall, 7200⟩, 3600⟩,
   ⟨2032, 2032, ⟨11, .on 28, .wall, 10800⟩, 0⟩,
   ⟨2033, 2033, ⟨1, .on 9, .wall, 7200⟩, 3600⟩,
   ⟨2033, 2033, ⟨11, .on 20, .wall, 10800⟩, 0⟩,
   ⟨2033, 2033, ⟨12, .on 25, .wall, 7200⟩, 3600⟩,
   ⟨2034, 2034, ⟨11, .on 5, .wall, 10800⟩, 0⟩,
   ⟨2034, 2034, ⟨12, .on 17, .wall, 7200⟩, 3600⟩,
   ⟨2035, 2035, ⟨10, .on 28, .wall, 10800⟩, 0⟩,
   ⟨2035, 2035, ⟨12, .on 9, .wall, 7200⟩, 3600⟩,
   ⟨2036, 2036, ⟨10, .on 19, .wall, 10800⟩, 0⟩,
   ⟨2036, 2036, ⟨11, .on 23, .wall, 7200⟩, 3600⟩,
   ⟨2037, 2037, ⟨10, .on 4, .wall, 10800⟩, 0⟩,
   ⟨2037, 2037, ⟨11, .on 15, .wall, 7200⟩, 3600⟩,
   ⟨2038, 2038, ⟨9, .on 26, .wall, 10800⟩, 0⟩,
   ⟨2038, 2038, ⟨10, .on 31, .wall, 7200⟩, 3600⟩,
   ⟨2039, 2039, ⟨9, .on 18, .wall, 10800⟩, 0⟩,
   ⟨2039, 2039, ⟨10, .on 23, .wall, 7200⟩, 3600⟩,
   ⟨2040, 2040, ⟨9, .on 2, .wall, 10800⟩, 0⟩,
   ⟨2040, 2040, ⟨10, .on 14, .wall, 7200⟩, 3600⟩,
   ⟨2041, 2041, ⟨8, .on 25, .wall, 10800⟩, 0⟩,
   ⟨2041, 2041, ⟨9, .on 29, .wall, 7200⟩, 3600⟩,
   ⟨2042, 2042, ⟨8, .on 10, .wall, 10800⟩, 0⟩,
   ⟨2042, 2042, ⟨9, .on 21, .wall, 7200⟩, 3600⟩,
   ⟨2043, 2043, ⟨8, .on 2, .wall, 10800⟩, 0⟩,
   ⟨2043, 2043, ⟨9, .on 13, .wall, 7200⟩, 3600⟩,
   ⟨2044, 2044, ⟨7, .on 24, .wall, 10800⟩, 0⟩,
   ⟨2044, 2044, ⟨8, .on 28, .wall, 7200⟩, 3600⟩,
   ⟨2045, 2045, ⟨7, .on 9, .wall, 10800⟩, 0⟩,
   ⟨2045, 2045, ⟨8, .on 20, .wall, 7200⟩, 3600⟩,
   ⟨2046, 2046, ⟨7, .on 1, .wall, 10800⟩, 0⟩,
   ⟨2046, 2046, ⟨8, .on 5, .wall, 7200⟩, 3600⟩,
   ⟨2047, 2047, ⟨6, .on 23, .wall, 10800⟩, 0⟩,
   ⟨2047, 2047, ⟨7, .on 28, .wall, 7200⟩, 3600⟩,
   ⟨2048, 2048, ⟨6, .on 7, .wall, 10800⟩, 0⟩,
   ⟨2048, 2048, ⟨7, .on 19, .wall, 7200⟩, 3600⟩,
   ⟨2049, 2049, ⟨5, .on 30, .wall, 10800⟩, 0⟩,
   ⟨2049, 2049, ⟨7, .on 4, .wall, 7200⟩, 3600⟩,
   ⟨2050, 2050, ⟨5, .on 15, .wall, 10800⟩, 0⟩,
   ⟨2050, 2050, ⟨6, .on 26, .wall, 7200⟩, 3600⟩,
   ⟨2051, 2051, ⟨5, .on 7, .wall, 10800⟩, 0⟩,
   ⟨2051, 2051, ⟨6, .on 18, .wall, 7200⟩, 3600⟩,
   ⟨2052, 2052, ⟨4, .on 28, .wall, 10800⟩, 0⟩,
   ⟨2052, 2052, ⟨6, .on 2, .wall, 7200⟩, 3600⟩,
   ⟨2053, 2053, ⟨4, .on 13, .wall, 10800⟩, 0⟩,
   ⟨2053, 2053, ⟨5, .on 25, .wall, 7200⟩, 3600⟩,
   ⟨2054, 2054, ⟨4, .on 5, .wall, 10800⟩, 0⟩,
   ⟨2054, 2054, ⟨5, .on 10, .wall, 7200⟩, 3600⟩,
   ⟨2055, 2055, ⟨3, .on 28, .wall, 10800⟩, 0⟩,
   ⟨2055, 2055, ⟨5, .on 2, .wall, 7200⟩, 3600⟩,
   ⟨2056, 2056, ⟨3, .on 12, .wall, 10800⟩, 0⟩,
   ⟨2056, 2056, ⟨4, .on 23, .wall, 7200⟩, 3600⟩,
   ⟨2057, 2057, ⟨3, .on 4, .wall, 10800⟩, 0⟩,
   ⟨2057, 2057, ⟨4, .on 8, .wall, 7200⟩, 3600⟩,
   ⟨2058, 2058, ⟨2, .on 17, .wall, 10800⟩, 0⟩,
   ⟨2058, 2058, ⟨3, .on 31, .wall, 7200⟩, 3600⟩,
   ⟨2059, 2059, ⟨2, .on 9, .wall, 10800⟩, 0⟩,
   ⟨2059, 2059, ⟨3, .on 23, .wall, 7200⟩, 3600⟩,
   ⟨2060, 2060, ⟨2, .on 1, .wall, 10800⟩, 0⟩,
   ⟨2060, 2060, ⟨3, .on 7, .wall, 7200⟩, 3600⟩,
   ⟨2061, 2061, ⟨1, .on 16, .wall, 10800⟩, 0⟩,
   ⟨2061, 2061, ⟨2, .on 27, .wall, 7200⟩, 3600⟩,
   ⟨2062, 2062, ⟨1, .on 8, .wall, 10800⟩, 0⟩,
   ⟨2062, 2062, ⟨2, .on 12, .wall, 7200⟩, 3600⟩,
   ⟨2062, 2062, ⟨12, .on 31, .wall, 10800⟩, 0⟩,
   ⟨2063, 2063, ⟨2, .on 4, .wall, 7200⟩, 3600⟩,
   ⟨2063, 2063, ⟨12, .on 16, .wall, 10800⟩, 0⟩,
   ⟨2064, 2064, ⟨1, .on 27, .wall, 7200⟩, 3600⟩,
   ⟨2064, 2064, ⟨12, .on 7, .wall, 10800⟩, 0⟩,
   ⟨2065, 2065, ⟨1, .on 11, .wall, 7200⟩, 3600⟩,
   ⟨2065, 2065, ⟨11, .on 22, .wall, 10800⟩, 0⟩,
   ⟨2066, 2066, ⟨1, .on 3, .wall, 7200⟩, 3600⟩,
   ⟨2066, 2066, ⟨11, .on 14, .wall, 10800⟩, 0⟩,
   ⟨2066, 2066, ⟨12, .on 26, .wall, 7200⟩, 3600⟩,
   ⟨2067, 2067, ⟨11, .on 6, .wall, 10800⟩, 0⟩,
   ⟨2067, 2067, ⟨12, .on 11, .wall, 7200⟩, 3600⟩,
   ⟨2068, 2068, ⟨10, .on 21, .wall, 10800⟩, 0⟩,
   ⟨2068, 2068, ⟨12, .on 2, .wall, 7200⟩, 3600⟩,
   ⟨2069, 2069, ⟨10, .on 13, .wall, 10800⟩, 0⟩,
   ⟨2069, 2069, ⟨11, .on 17, .wall, 7200⟩, 3600⟩,
   ⟨2070, 2070, ⟨10, .on 5, .wall, 10800⟩, 0⟩,
   ⟨2070, 2070, ⟨11, .on 9, .wall, 7200⟩, 3600⟩,
   ⟨2071, 2071, ⟨9, .on 20, .wall, 10800⟩, 0⟩,
   ⟨2071, 2071, ⟨11, .on 1, .wall, 7200⟩, 3600⟩,
   ⟨2072, 2072, ⟨9, .on 11, .wall, 10800⟩, 0⟩,
   ⟨2072, 2072, ⟨10, .on 16, .wall, 7200⟩, 3600⟩,
   ⟨2073, 2073, ⟨8, .on 27, .wall, 10800⟩, 0⟩,
   ⟨2073, 2073, ⟨10, .on 8, .wall, 7200⟩, 3600⟩,
   ⟨2074, 2074, ⟨8, .on 19, .wall, 10800⟩, 0⟩,
   ⟨2074, 2074, ⟨9, .on 30, .wall, 7200⟩, 3600⟩,
   ⟨2075, 2075, ⟨8, .on 11, .wall, 10800⟩, 0⟩,
   ⟨2075, 2075, ⟨9, .on 15, .wall, 7200⟩, 3600⟩,
   ⟨2076, 2076, ⟨7, .on 26, .wall, 10800⟩, 0⟩,
   ⟨2076, 2076, ⟨9, .on 6, .wall, 7200⟩, 3600⟩,
   ⟨2077, 2077, ⟨7, .on 18, .wall, 10800⟩, 0⟩,
   ⟨2077, 2077, ⟨8, .on 22, .wall, 7200⟩, 3600⟩,
   ⟨2078, 2078, ⟨7, .on 10, .wall, 10800⟩, 0⟩,
   ⟨2078, 2078, ⟨8, .on 14, .wall, 7200⟩, 3600⟩,
   ⟨2079, 2079, ⟨6, .on 25, .wall, 10800⟩, 0⟩,
   ⟨2079, 2079, ⟨8, .on 6, .wall, 7200⟩, 3600⟩,
   ⟨2080, 2080, ⟨6, .on 16, .wall, 10800⟩, 0⟩,
   ⟨2080, 2080, ⟨7, .on 21, .wall, 7200⟩, 3600⟩,
   ⟨2081, 2081, ⟨6, .on 1, .wall, 10800⟩, 0⟩,
   ⟨2081, 2081, ⟨7, .on 13, .wall, 7200⟩, 3600⟩,
   ⟨2082, 2082, ⟨5, .on 24, .wall, 10800⟩, 0⟩,
   ⟨2082, 2082, ⟨6, .on 28, .wall, 7200⟩, 3600⟩,
   ⟨2083, 2083, ⟨5, .on 16, .wall, 10800⟩, 0⟩,
   ⟨2083, 2083, ⟨6, .on 20, .wall, 7200⟩, 3600⟩,
   ⟨2084, 2084, ⟨4, .on 30, .wall, 10800⟩, 0⟩,
   ⟨2084, 2084, ⟨6, .on 11, .wall, 7200⟩, 3600⟩,
   ⟨2085, 2085, ⟨4, .on 22, .wall, 10800⟩, 0⟩,
   ⟨2085, 2085, ⟨5, .on 27, .wall, 7200⟩, 3600⟩,
   ⟨2086, 2086, ⟨4, .on 14, .wall, 10800⟩, 0⟩,
   ⟨2086, 2086, ⟨5, .on 19, .wall, 7200⟩, 3600⟩,
   ⟨2087, 2087, ⟨3, .on 30, .wall, 10800⟩, 0⟩,
   ⟨2087, 2087, ⟨5, .on 11, .wall, 7200⟩, 3600⟩]

def namibia : List SavingRule :=
  [⟨1994, 1994, ⟨3, .on 21, .wall, 0⟩, 0⟩,
   ⟨1994, 2017, ⟨9, .onOrAfter .sun 1, .wall, 7200⟩, 3600⟩,
   ⟨1995, 2017, ⟨4, .onOrAfter .sun 1, .wall, 7200⟩, 0⟩]

def southAfrica : List SavingRule :=
  [⟨1942, 1943, ⟨9, .onOrAfter .sun 15, .wall, 7200⟩, 3600⟩,
   ⟨1943, 1944, ⟨3, .onOrAfter .sun 15, .wall, 7200⟩, 0⟩]

def sudan : List SavingRule :=
  [⟨1970, 1970, ⟨5, .on 1, .wall, 0⟩, 3600⟩,
   ⟨1970, 1985, ⟨10, .on 15, .wall, 0⟩, 0⟩,
   ⟨1971, 1971, ⟨4, .on 30, .wall, 0⟩, 3600⟩,
   ⟨1972, 1985, ⟨4, .last .sun, .wall, 0⟩, 3600⟩]

def tunisia : List SavingRule :=
  [⟨1939, 1939, ⟨4, .on 15, .standard, 82800⟩, 3600⟩,
   ⟨1939, 1939, ⟨11, .on 18, .standard, 82800⟩, 0⟩,
   ⟨1940, 1940, ⟨2, .on 25, .standard, 82800⟩, 3600⟩,
   ⟨1941, 1941, ⟨10, .on 6, .wall, 0⟩, 0⟩,
   ⟨1942, 1942, ⟨3, .on 9, .wall, 0⟩, 3600⟩,
   ⟨1942, 1942, ⟨11, .on 2, .wall, 10800⟩, 0⟩,
   ⟨1943, 1943, ⟨3, .on 29, .wall, 7200⟩, 3600⟩,
   ⟨1943, 1943, ⟨4, .on 17, .wall, 7200⟩, 0⟩,
   ⟨1943, 1943, ⟨4, .on 25, .wall, 7200⟩, 3600⟩,
   ⟨1943, 1943, ⟨10, .on 4, .wall, 7200⟩, 0⟩,
   ⟨1944, 1945, ⟨4, .onOrAfter .mon 1, .wall, 7200⟩, 3600⟩,
   ⟨1944, 1944, ⟨10, .on 8, .wall, 0⟩, 0⟩,
   ⟨1945, 1945, ⟨9, .on 16, .wall, 0⟩, 0⟩,
   ⟨1977, 1977, ⟨4, .on 30, .standard, 0⟩, 3600⟩,
   ⟨1977, 1977, ⟨9, .on 24, .standard, 0⟩, 0⟩,
   ⟨1978, 1978, ⟨5, .on 1, .standard, 0⟩, 3600⟩,
   ⟨1978, 1978, ⟨10, .on 1, .standard, 0⟩, 0⟩,
   ⟨1988, 1988, ⟨6, .on 1, .standard, 0⟩, 3600⟩,
   ⟨1988, 1990, ⟨9, .last .sun, .standard, 0⟩, 0⟩,
   ⟨1989, 1989, ⟨3, .on 26, .standard, 0⟩, 3600⟩,
   ⟨1990, 1990, ⟨5, .on 1, .standard, 0⟩, 3600⟩,
   ⟨2005, 2005, ⟨5, .on 1, .standard, 0⟩, 3600⟩,
   ⟨2005, 2005, ⟨9, .on 30, .standard, 3600⟩, 0⟩,
   ⟨2006, 2008, ⟨3, .last .sun, .standard, 7200⟩, 3600⟩,
   ⟨2006, 2008, ⟨10, .last .sun, .standard, 7200⟩, 0⟩]

def spainAfrica : List SavingRule :=
  [⟨1967, 1967, ⟨6, .on 3, .wall, 43200⟩, 3600⟩,
   ⟨1967, 1967, ⟨10, .on 1, .wall, 0⟩, 0⟩,
   ⟨1974, 1974, ⟨6, .on 24, .wall, 0⟩, 3600⟩,
   ⟨1974, 1974, ⟨9, .on 1, .wall, 0⟩, 0⟩,
   ⟨1976, 1977, ⟨5, .on 1, .wall, 0⟩, 3600⟩,
   ⟨1976, 1976, ⟨8, .on 1, .wall, 0⟩, 0⟩,
   ⟨1977, 1977, ⟨9, .on 28, .wall, 0⟩, 0⟩,
   ⟨1978, 1978, ⟨6, .on 1, .wall, 0⟩, 3600⟩,
   ⟨1978, 1978, ⟨8, .on 4, .wall, 0⟩, 0⟩]

def africaZones : List (String × List Era) :=
  [("Africa/Abidjan",
    [⟨-968, .fixed 0, some (1912, ⟨1, .on 1, .wall, 0⟩)⟩,
     ⟨0, .fixed 0, none⟩]),
   ("Africa/Algiers",
    [⟨732, .fixed 0, some (1891, ⟨3, .on 16, .wall, 0⟩)⟩,
     ⟨561, .fixed 0, some (1911, ⟨3, .on 11, .wall, 0⟩)⟩,
     ⟨0, .byRules algeria, some (1940, ⟨2, .on 25, .wall, 7200⟩)⟩,
     ⟨3600, .byRules algeria, some (1946, ⟨10, .on 7, .wall, 0⟩)⟩,
     ⟨0, .fixed 0, some (1956, ⟨1, .on 29, .wall, 0⟩)⟩,
     ⟨3600, .fixed 0, some (1963, ⟨4, .on 14, .wall, 0⟩)⟩,
     ⟨0, .byRules algeria, some (1977, ⟨10, .on 21, .wall, 0⟩)⟩,
     ⟨3600, .byRules algeria, some (1979, ⟨10, .on 26, .wall, 0⟩)⟩,
     ⟨0, .byRules algeria, some (1981, ⟨5, .on 1, .wall, 0⟩)⟩,
     ⟨3600, .fixed 0, none⟩]),
   ("Africa/Bissau",
    [⟨-3740, .fixed 0, some (1912, ⟨1, .on 1, .universal, 3600⟩)⟩,
     ⟨-3600, .fixed 0, some (1975, ⟨1, .on 1, .wall, 0⟩)⟩,
     ⟨0, .fixed 0, none⟩]),
   ("Africa/Cairo",
    [⟨7509, .fixed 0, some (1900, ⟨10, .on 1, .wall, 0⟩)⟩,
     ⟨7200, .byRules egypt, none⟩]),
   ("Africa/Casablanca",
    [⟨-1820, .fixed 0, some (1913, ⟨10, .on 26, .wall, 0⟩)⟩,
     ⟨0, .byRules morocco, some (1984, ⟨3, .on 16, .wall, 0⟩)⟩,
     ⟨3600, .fixed 0, some (1986, ⟨1, .on 1, .wall, 0⟩)⟩,
     ⟨0, .byRules morocco, some (2018, ⟨10, .on 28, .wall, 10800⟩)⟩,
     ⟨0, .byRules morocco, none⟩]),
   ("Africa/Ceuta",
    [⟨-1276, .fixed 0, some (1901, ⟨1, .on 1, .universal, 0⟩)⟩,
     ⟨0, .fixed 0, some (1918, ⟨5, .on 6, .wall, 82800⟩)⟩,
     ⟨0, .fixed 3600, some (1918, ⟨10, .on 7, .wall, 82800⟩)⟩,
     ⟨0, .fixed 0, some (1924, ⟨1, .on 1, .wall, 0⟩)⟩,
     ⟨0, .byRules spain, some (1929, ⟨1, .on 1, .wall, 0⟩)⟩,
     ⟨0, .fixed 0, some (1967, ⟨1, .on 1, .wall, 0⟩)⟩,
     ⟨0, .byRules spainAfrica, some (1984, ⟨3, .on 16, .wall, 0⟩)⟩,
     ⟨3600, .fixed 0, some (1986, ⟨1, .on 1, .wall, 0⟩)⟩,
     ⟨3600, .byRules europeanUnion, none⟩]),
   ("Africa/El_Aaiun",
    [⟨-3168, .fixed 0, some (1934, ⟨1, .on 1, .wall, 0⟩)⟩,
     ⟨-3600, .fixed 0, some (1976, ⟨4, .on 14, .wall, 0⟩)⟩,
     ⟨0, .byRules morocco, some (2018, ⟨10, .on 28, .wall, 10800⟩)⟩,
     ⟨0, .byRules morocco, none⟩]),
   ("Africa/Johannesburg",
    [⟨6720, .fixed 0, some (1892, ⟨2, .on 8, .wall, 0⟩)⟩,
     ⟨5400, .fixed 0, some (1903, ⟨3, .on 1, .wall, 0⟩)⟩,
     ⟨7200, .byRules southAfrica, none⟩]),
   ("Africa/Juba",
    [⟨7588, .fixed 0, some (1931, ⟨1, .on 1, .wall, 0⟩)⟩,
     ⟨7200, .byRules sudan, some (2000, ⟨1, .on 15, .wall, 43200⟩)⟩,
     ⟨10800, .fixed 0, some (2021, ⟨2, .on 1, .wall, 0⟩)⟩,
     ⟨7200, .fixed 0, none⟩]),
   ("Africa/Khartoum",
    [⟨7808, .fixed 0, some (1931, ⟨1, .on 1, .wall, 0⟩)⟩,
     ⟨7200, .byRules sudan, some (2000, ⟨1, .on 15, .wall, 43200⟩)⟩,
     ⟨10800, .fixed 0, some (2017, ⟨11, .on 1, .wall, 0⟩)⟩,
     ⟨7200, .fixed 0, none⟩]),
   ("Africa/Lagos",
    [⟨815, .fixed 0, some (1905, ⟨7, .on 1, .wall, 0⟩)⟩,
     ⟨0, .fixed 0, some (1908, ⟨7, .on 1, .wall, 0⟩)⟩,
     ⟨815, .fixed 0, some (1914, ⟨1, .on 1, .wall, 0⟩)⟩,
     ⟨1800, .fixed 0, some (1919, ⟨9, .on 1, .wall, 0⟩)⟩,
     ⟨3600, .fixed 0, none⟩]),
   ("Africa/Maputo",
    [⟨7818, .fixed 0, some (1909, ⟨1, .on 1, .wall, 0⟩)⟩,
     ⟨7200, .fixed 0, none⟩]),
   ("Africa/Monrovia",
    [⟨-2588, .fixed 0, some (1882, ⟨1, .on 1, .wall, 0⟩)⟩,
     ⟨-2588, .fixed 0, some (1919, ⟨3, .on 1, .wall, 0⟩)⟩,
     ⟨-2670, .fixed 0, some (1972, ⟨1, .on 7, .wall, 0⟩)⟩,
     ⟨0, .fixed 0, none⟩]),
   ("Africa/Nairobi",
    [⟨8836, .fixed 0, some (1908, ⟨5, .on 1, .wall, 0⟩)⟩,
     ⟨9000, .fixed 0, some (1928, ⟨6, .on 30, .wall, 86400⟩)⟩,
     ⟨10800, .fixed 0, some (1930, ⟨1, .on 4, .wall, 86400⟩)⟩,
     ⟨9000, .fixed 0, some (1936, ⟨12, .on 31, .wall, 86400⟩)⟩,
     ⟨9900, .fixed 0, some (1942, ⟨7, .on 31, .wall, 86400⟩)⟩,
     ⟨10800, .fixed 0, none⟩]),
   ("Africa/Ndjamena",
    [⟨3612, .fixed 0, some (1912, ⟨1, .on 1, .wall, 0⟩)⟩,
     ⟨3600, .fixed 0, some (1979, ⟨10, .on 14, .wall, 0⟩)⟩,
     ⟨3600, .fixed 3600, some (1980, ⟨3, .on 8, .wall, 0⟩)⟩,
     ⟨3600, .fixed 0, none⟩]),
   ("Africa/Sao_Tome",
    [⟨1616, .fixed 0, some (1884, ⟨1, .on 1, .wall, 0⟩)⟩,
     ⟨-2205, .fixed 0, some (1912, ⟨1, .on 1, .universal, 0⟩)⟩,
     ⟨0, .fixed 0, some (2018, ⟨1, .on 1, .wall, 3600⟩)⟩,
     ⟨3600, .fixed 0, some (2019, ⟨1, .on 1, .wall, 7200⟩)⟩,
     ⟨0, .fixed 0, none⟩]),
   ("Africa/Tripoli",
    [⟨3164, .fixed 0, some (1920, ⟨1, .on 1, .wall, 0⟩)⟩,
     ⟨3600, .byRules libya, some (1959, ⟨1, .on 1, .wall, 0⟩)⟩,
     ⟨7200, .fixed 0, some (1982, ⟨1, .on 1, .wall, 0⟩)⟩,
     ⟨3600, .byRules libya, some (1990, ⟨5, .on 4, .wall, 0⟩)⟩,
     ⟨7200, .fixed 0, some (1996, ⟨9, .on 30, .wall, 0⟩)⟩,
     ⟨3600, .byRules libya, some (1997, ⟨10, .on 4, .wall, 0⟩)⟩,
     ⟨7200, .fixed 0, some (2012, ⟨11, .on 10, .wall, 7200⟩)⟩,
     ⟨3600, .byRules libya, some (2013, ⟨10, .on 25, .wall, 7200⟩)⟩,
     ⟨7200, .fixed 0, none⟩]),
   ("Africa/Tunis",
    [⟨2444, .fixed 0, some (1881, ⟨5, .on 12, .wall, 0⟩)⟩,
     ⟨561, .fixed 0, some (1911, ⟨3, .on 11, .wall, 0⟩)⟩,
     ⟨3600, .byRules tunisia, none⟩]),
   ("Africa/Windhoek",
    [⟨4104, .fixed 0, some (1892, ⟨2, .on 8, .wall, 0⟩)⟩,
     ⟨5400, .fixed 0, some (1903, ⟨3, .on 1, .wall, 0⟩)⟩,
     ⟨7200, .fixed 0, some (1942, ⟨9, .on 20, .wall, 7200⟩)⟩,
     ⟨7200, .fixed 3600, some (1943, ⟨3, .on 21, .wall, 7200⟩)⟩,
     ⟨7200, .fixed 0, some (1990, ⟨3, .on 21, .wall, 0⟩)⟩,
     ⟨7200, .fixed 0, some (1994, ⟨3, .on 21, .wall, 0⟩)⟩,
     ⟨3600, .byRules namibia, some (2017, ⟨10, .on 24, .wall, 0⟩)⟩,
     ⟨7200, .fixed 0, none⟩])]

end Punctual.ZoneTable
