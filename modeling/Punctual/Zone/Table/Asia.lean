import Punctual.Zone.Table.Shared

/-! The histories of the time zones of Asia. -/
namespace Punctual.ZoneTable

def armenia : List SavingRule :=
  [⟨2011, 2011, ⟨3, .last .sun, .standard, 7200⟩, 3600⟩,
   ⟨2011, 2011, ⟨10, .last .sun, .standard, 7200⟩, 0⟩]

def azerbaijan : List SavingRule :=
  [⟨1997, 2015, ⟨3, .last .sun, .wall, 14400⟩, 3600⟩,
   ⟨1997, 2015, ⟨10, .last .sun, .wall, 18000⟩, 0⟩]

def bangladesh : List SavingRule :=
  [⟨2009, 2009, ⟨6, .on 19, .wall, 82800⟩, 3600⟩,
   ⟨2009, 2009, ⟨12, .on 31, .wall, 86400⟩, 0⟩]

def shanghai : List SavingRule :=
  [⟨1919, 1919, ⟨4, .on 12, .wall, 86400⟩, 3600⟩,
   ⟨1919, 1919, ⟨9, .on 30, .wall, 86400⟩, 0⟩,
   ⟨1940, 1940, ⟨6, .on 1, .wall, 0⟩, 3600⟩,
   ⟨1940, 1940, ⟨10, .on 12, .wall, 86400⟩, 0⟩,
   ⟨1941, 1941, ⟨3, .on 15, .wall, 0⟩, 3600⟩,
   ⟨1941, 1941, ⟨11, .on 1, .wall, 86400⟩, 0⟩,
   ⟨1942, 1942, ⟨1, .on 31, .wall, 0⟩, 3600⟩,
   ⟨1945, 1945, ⟨9, .on 1, .wall, 86400⟩, 0⟩,
   ⟨1946, 1946, ⟨5, .on 15, .wall, 0⟩, 3600⟩,
   ⟨1946, 1946, ⟨9, .on 30, .wall, 86400⟩, 0⟩,
   ⟨1947, 1947, ⟨4, .on 15, .wall, 0⟩, 3600⟩,
   ⟨1947, 1947, ⟨10, .on 31, .wall, 86400⟩, 0⟩,
   ⟨1948, 1949, ⟨5, .on 1, .wall, 0⟩, 3600⟩,
   ⟨1948, 1949, ⟨9, .on 30, .wall, 86400⟩, 0⟩]

def china : List SavingRule :=
  [⟨1986, 1986, ⟨5, .on 4, .wall, 7200⟩, 3600⟩,
   ⟨1986, 1991, ⟨9, .onOrAfter .sun 11, .wall, 7200⟩, 0⟩,
   ⟨1987, 1991, ⟨4, .onOrAfter .sun 11, .wall, 7200⟩, 3600⟩]

def hongKong : List SavingRule :=
  [⟨1946, 1946, ⟨4, .on 21, .wall, 0⟩, 3600⟩,
   ⟨1946, 1946, ⟨12, .on 1, .standard, 12600⟩, 0⟩,
   ⟨1947, 1947, ⟨4, .on 13, .standard, 12600⟩, 3600⟩,
   ⟨1947, 1947, ⟨11, .on 30, .standard, 12600⟩, 0⟩,
   ⟨1948, 1948, ⟨5, .on 2, .standard, 12600⟩, 3600⟩,
   ⟨1948, 1952, ⟨10, .onOrAfter .sun 28, .standard, 12600⟩, 0⟩,
   ⟨1949, 1953, ⟨4, .onOrAfter .sun 1, .wall, 12600⟩, 3600⟩,
   ⟨1953, 1964, ⟨10, .onOrAfter .sun 31, .wall, 12600⟩, 0⟩,
   ⟨1954, 1964, ⟨3, .onOrAfter .sun 18, .wall, 12600⟩, 3600⟩,
   ⟨1965, 1976, ⟨4, .onOrAfter .sun 16, .wall, 12600⟩, 3600⟩,
   ⟨1965, 1976, ⟨10, .onOrAfter .sun 16, .wall, 12600⟩, 0⟩,
   ⟨1973, 1973, ⟨12, .on 30, .wall, 12600⟩, 3600⟩,
   ⟨1979, 1979, ⟨5, .on 13, .wall, 12600⟩, 3600⟩,
   ⟨1979, 1979, ⟨10, .on 21, .wall, 12600⟩, 0⟩]

def taiwan : List SavingRule :=
  [⟨1946, 1946, ⟨5, .on 15, .wall, 0⟩, 3600⟩,
   ⟨1946, 1946, ⟨10, .on 1, .wall, 0⟩, 0⟩,
   ⟨1947, 1947, ⟨4, .on 15, .wall, 0⟩, 3600⟩,
   ⟨1947, 1947, ⟨11, .on 1, .wall, 0⟩, 0⟩,
   ⟨1948, 1951, ⟨5, .on 1, .wall, 0⟩, 3600⟩,
   ⟨1948, 1951, ⟨10, .on 1, .wall, 0⟩, 0⟩,
   ⟨1952, 1952, ⟨3, .on 1, .wall, 0⟩, 3600⟩,
   ⟨1952, 1954, ⟨11, .on 1, .wall, 0⟩, 0⟩,
   ⟨1953, 1959, ⟨4, .on 1, .wall, 0⟩, 3600⟩,
   ⟨1955, 1961, ⟨10, .on 1, .wall, 0⟩, 0⟩,
   ⟨1960, 1961, ⟨6, .on 1, .wall, 0⟩, 3600⟩,
   ⟨1974, 1975, ⟨4, .on 1, .wall, 0⟩, 3600⟩,
   ⟨1974, 1975, ⟨10, .on 1, .wall, 0⟩, 0⟩,
   ⟨1979, 1979, ⟨7, .on 1, .wall, 0⟩, 3600⟩,
   ⟨1979, 1979, ⟨10, .on 1, .wall, 0⟩, 0⟩]

def macau : List SavingRule :=
  [⟨1942, 1943, ⟨4, .on 30, .wall, 82800⟩, 3600⟩,
   ⟨1942, 1942, ⟨11, .on 17, .wall, 82800⟩, 0⟩,
   ⟨1943, 1943, ⟨9, .on 30, .wall, 82800⟩, 0⟩,
   ⟨1946, 1946, ⟨4, .on 30, .standard, 82800⟩, 3600⟩,
   ⟨1946, 1946, ⟨9, .on 30, .standard, 82800⟩, 0⟩,
   ⟨1947, 1947, ⟨4, .on 19, .standard, 82800⟩, 3600⟩,
   ⟨1947, 1947, ⟨11, .on 30, .standard, 82800⟩, 0⟩,
   ⟨1948, 1948, ⟨5, .on 2, .standard, 82800⟩, 3600⟩,
   ⟨1948, 1948, ⟨10, .on 31, .standard, 82800⟩, 0⟩,
   ⟨1949, 1950, ⟨4, .onOrAfter .sat 1, .standard, 82800⟩, 3600⟩,
   ⟨1949, 1950, ⟨10, .last .sat, .standard, 82800⟩, 0⟩,
   ⟨1951, 1951, ⟨3, .on 31, .standard, 82800⟩, 3600⟩,
   ⟨1951, 1951, ⟨10, .on 28, .standard, 82800⟩, 0⟩,
   ⟨1952, 1953, ⟨4, .onOrAfter .sat 1, .standard, 82800⟩, 3600⟩,
   ⟨1952, 1952, ⟨11, .on 1, .standard, 82800⟩, 0⟩,
   ⟨1953, 1954, ⟨10, .last .sat, .standard, 82800⟩, 0⟩,
   ⟨1954, 1956, ⟨3, .onOrAfter .sat 17, .standard, 82800⟩, 3600⟩,
   ⟨1955, 1955, ⟨11, .on 5, .standard, 82800⟩, 0⟩,
   ⟨1956, 1964, ⟨11, .onOrAfter .sun 1, .wall, 12600⟩, 0⟩,
   ⟨1957, 1964, ⟨3, .onOrAfter .sun 18, .wall, 12600⟩, 3600⟩,
   ⟨1965, 1973, ⟨4, .onOrAfter .sun 16, .wall, 12600⟩, 3600⟩,
   ⟨1965, 1966, ⟨10, .onOrAfter .sun 16, .wall, 9000⟩, 0⟩,
   ⟨1967, 1976, ⟨10, .onOrAfter .sun 16, .wall, 12600⟩, 0⟩,
   ⟨1973, 1973, ⟨12, .on 30, .wall, 12600⟩, 3600⟩,
   ⟨1975, 1976, ⟨4, .onOrAfter .sun 16, .wall, 12600⟩, 3600⟩,
   ⟨1979, 1979, ⟨5, .on 13, .wall, 12600⟩, 3600⟩,
   ⟨1979, 1979, ⟨10, .onOrAfter .sun 16, .wall, 12600⟩, 0⟩]

def cyprus : List SavingRule :=
  [⟨1975, 1975, ⟨4, .on 13, .wall, 0⟩, 3600⟩,
   ⟨1975, 1975, ⟨10, .on 12, .wall, 0⟩, 0⟩,
   ⟨1976, 1976, ⟨5, .on 15, .wall, 0⟩, 3600⟩,
   ⟨1976, 1976, ⟨10, .on 11, .wall, 0⟩, 0⟩,
   ⟨1977, 1980, ⟨4, .onOrAfter .sun 1, .wall, 0⟩, 3600⟩,
   ⟨1977, 1977, ⟨9, .on 25, .wall, 0⟩, 0⟩,
   ⟨1978, 1978, ⟨10, .on 2, .wall, 0⟩, 0⟩,
   ⟨1979, 1997, ⟨9, .last .sun, .wall, 0⟩, 0⟩,
   ⟨1981, 1998, ⟨3, .last .sun, .wall, 0⟩, 3600⟩]

def iran : List SavingRule :=
  [⟨1910, 1910, ⟨1, .on 1, .wall, 0⟩, 0⟩,
   ⟨1977, 1977, ⟨3, .on 21, .wall, 82800⟩, 3600⟩,
   ⟨1977, 1977, ⟨10, .on 20, .wall, 86400⟩, 0⟩,
   ⟨1978, 1978, ⟨3, .on 24, .wall, 86400⟩, 3600⟩,
   ⟨1978, 1978, ⟨8, .on 5, .wall, 3600⟩, 0⟩,
   ⟨1979, 1979, ⟨5, .on 26, .wall, 86400⟩, 3600⟩,
   ⟨1979, 1979, ⟨9, .on 18, .wall, 86400⟩, 0⟩,
   ⟨1980, 1980, ⟨3, .on 20, .wall, 86400⟩, 3600⟩,
   ⟨1980, 1980, ⟨9, .on 22, .wall, 86400⟩, 0⟩,
   ⟨1991, 1991, ⟨5, .on 2, .wall, 86400⟩, 3600⟩,
   ⟨1992, 1995, ⟨3, .on 21, .wall, 86400⟩, 3600⟩,
   ⟨1991, 1995, ⟨9, .on 21, .wall, 86400⟩, 0⟩,
   ⟨1996, 1996, ⟨3, .on 20, .wall, 86400⟩, 3600⟩,
   ⟨1996, 1996, ⟨9, .on 20, .wall, 86400⟩, 0⟩,
   ⟨1997, 1999, ⟨3, .on 21, .wall, 86400⟩, 3600⟩,
   ⟨1997, 1999, ⟨9, .on 21, .wall, 86400⟩, 0⟩,
   ⟨2000, 2000, ⟨3, .on 20, .wall, 86400⟩, 3600⟩,
   ⟨2000, 2000, ⟨9, .on 20, .wall, 86400⟩, 0⟩,
   ⟨2001, 2003, ⟨3, .on 21, .wall, 86400⟩, 3600⟩,
   ⟨2001, 2003, ⟨9, .on 21, .wall, 86400⟩, 0⟩,
   ⟨2004, 2004, ⟨3, .on 20, .wall, 86400⟩, 3600⟩,
   ⟨2004, 2004, ⟨9, .on 20, .wall, 86400⟩, 0⟩,
   ⟨2005, 2005, ⟨3, .on 21, .wall, 86400⟩, 3600⟩,
   ⟨2005, 2005, ⟨9, .on 21, .wall, 86400⟩, 0⟩,
   ⟨2008, 2008, ⟨3, .on 20, .wall, 86400⟩, 3600⟩,
   ⟨2008, 2008, ⟨9, .on 20, .wall, 86400⟩, 0⟩,
   ⟨2009, 2011, ⟨3, .on 21, .wall, 86400⟩, 3600⟩,
   ⟨2009, 2011, ⟨9, .on 21, .wall, 86400⟩, 0⟩,
   ⟨2012, 2012, ⟨3, .on 20, .wall, 86400⟩, 3600⟩,
   ⟨2012, 2012, ⟨9, .on 20, .wall, 86400⟩, 0⟩,
   ⟨2013, 2015, ⟨3, .on 21, .wall, 86400⟩, 3600⟩,
   ⟨2013, 2015, ⟨9, .on 21, .wall, 86400⟩, 0⟩,
   ⟨2016, 2016, ⟨3, .on 20, .wall, 86400⟩, 3600⟩,
   ⟨2016, 2016, ⟨9, .on 20, .wall, 86400⟩, 0⟩,
   ⟨2017, 2019, ⟨3, .on 21, .wall, 86400⟩, 3600⟩,
   ⟨2017, 2019, ⟨9, .on 21, .wall, 86400⟩, 0⟩,
   ⟨2020, 2020, ⟨3, .on 20, .wall, 86400⟩, 3600⟩,
   ⟨2020, 2020, ⟨9, .on 20, .wall, 86400⟩, 0⟩,
   ⟨2021, 2022, ⟨3, .on 21, .wall, 86400⟩, 3600⟩,
   ⟨2021, 2022, ⟨9, .on 21, .wall, 86400⟩, 0⟩]

def iraq : List SavingRule :=
  [⟨1982, 1982, ⟨5, .on 1, .wall, 0⟩, 3600⟩,
   ⟨1982, 1984, ⟨10, .on 1, .wall, 0⟩, 0⟩,
   ⟨1983, 1983, ⟨3, .on 31, .wall, 0⟩, 3600⟩,
   ⟨1984, 1985, ⟨4, .on 1, .wall, 0⟩, 3600⟩,
   ⟨1985, 1990, ⟨9, .last .sun, .standard, 3600⟩, 0⟩,
   ⟨1986, 1990, ⟨3, .last .sun, .standard, 3600⟩, 3600⟩,
   ⟨1991, 2007, ⟨4, .on 1, .standard, 10800⟩, 3600⟩,
   ⟨1991, 2007, ⟨10, .on 1, .standard, 10800⟩, 0⟩]

def israel : List SavingRule :=
  [⟨1940, 1940, ⟨5, .on 31, .universal, 86400⟩, 3600⟩,
   ⟨1940, 1940, ⟨9, .on 30, .universal, 86400⟩, 0⟩,
   ⟨1940, 1940, ⟨11, .on 16, .universal, 86400⟩, 3600⟩,
   ⟨1942, 1946, ⟨10, .on 31, .universal, 86400⟩, 0⟩,
   ⟨1943, 1944, ⟨3, .on 31, .universal, 86400⟩, 3600⟩,
   ⟨1945, 1946, ⟨4, .on 15, .universal, 86400⟩, 3600⟩,
   ⟨1948, 1948, ⟨5, .on 22, .universal, 86400⟩, 7200⟩,
   ⟨1948, 1948, ⟨8, .on 31, .universal, 86400⟩, 3600⟩,
   ⟨1948, 1949, ⟨10, .on 31, .universal, 86400⟩, 0⟩,
   ⟨1949, 1949, ⟨4, .on 30, .universal, 86400⟩, 3600⟩,
   ⟨1950, 1950, ⟨4, .on 15, .universal, 86400⟩, 3600⟩,
   ⟨1950, 1950, ⟨9, .on 14, .universal, 86400⟩, 0⟩,
   ⟨1951, 1951, ⟨3, .on 31, .universal, 86400⟩, 3600⟩,
   ⟨1951, 1951, ⟨11, .on 10, .universal, 86400⟩, 0⟩,
   ⟨1952, 1952, ⟨4, .on 19, .universal, 86400⟩, 3600⟩,
   ⟨1952, 1952, ⟨10, .on 18, .universal, 86400⟩, 0⟩,
   ⟨1953, 1953, ⟨4, .on 11, .universal, 86400⟩, 3600⟩,
   ⟨1953, 1953, ⟨9, .on 12, .universal, 86400⟩, 0⟩,
   ⟨1954, 1954, ⟨6, .on 12, .universal, 86400⟩, 3600⟩,
   ⟨1954, 1954, ⟨9, .on 11, .universal, 86400⟩, 0⟩,
   ⟨1955, 1955, ⟨6, .on 11, .universal, 86400⟩, 3600⟩,
   ⟨1955, 1955, ⟨9, .on 10, .universal, 86400⟩, 0⟩,
   ⟨1956, 1956, ⟨6, .on 2, .universal, 86400⟩, 3600⟩,
   ⟨1956, 1956, ⟨9, .on 29, .universal, 86400⟩, 0⟩,
   ⟨1957, 1957, ⟨4, .on 27, .universal, 86400⟩, 3600⟩,
   ⟨1957, 1957, ⟨9, .on 21, .universal, 86400⟩, 0⟩,
   ⟨1974, 1974, ⟨7, .on 6, .wall, 86400⟩, 3600⟩,
   ⟨1974, 1974, ⟨10, .on 12, .wall, 86400⟩, 0⟩,
   ⟨1975, 1975, ⟨4, .on 19, .wall, 86400⟩, 3600⟩,
   ⟨1975, 1975, ⟨8, .on 30, .wall, 86400⟩, 0⟩,
   ⟨1980, 1980, ⟨8, .on 2, .standard, 86400⟩, 3600⟩,
   ⟨1980, 1980, ⟨9, .on 13, .standard, 86400⟩, 0⟩,
   ⟨1984, 1984, ⟨5, .on 5, .standard, 86400⟩, 3600⟩,
   ⟨1984, 1984, ⟨8, .on 25, .standard, 86400⟩, 0⟩,
   ⟨1985, 1985, ⟨4, .on 13, .wall, 86400⟩, 3600⟩,
   ⟨1985, 1985, ⟨8, .on 31, .wall, 86400⟩, 0⟩,
   ⟨1986, 1986, ⟨5, .on 17, .wall, 86400⟩, 3600⟩,
   ⟨1986, 1986, ⟨9, .on 6, .wall, 86400⟩, 0⟩,
   ⟨1987, 1987, ⟨4, .on 14, .wall, 86400⟩, 3600⟩,
   ⟨1987, 1987, ⟨9, .on 12, .wall, 86400⟩, 0⟩,
   ⟨1988, 1988, ⟨4, .on 9, .wall, 86400⟩, 3600⟩,
   ⟨1988, 1988, ⟨9, .on 3, .wall, 86400⟩, 0⟩,
   ⟨1989, 1989, ⟨4, .on 29, .wall, 86400⟩, 3600⟩,
   ⟨1989, 1989, ⟨9, .on 2, .wall, 86400⟩, 0⟩,
   ⟨1990, 1990, ⟨3, .on 24, .wall, 86400⟩, 3600⟩,
   ⟨1990, 1990, ⟨8, .on 25, .wall, 86400⟩, 0⟩,
   ⟨1991, 1991, ⟨3, .on 23, .wall, 86400⟩, 3600⟩,
   ⟨1991, 1991, ⟨8, .on 31, .wall, 86400⟩, 0⟩,
   ⟨1992, 1992, ⟨3, .on 28, .wall, 86400⟩, 3600⟩,
   ⟨1992, 1992, ⟨9, .on 5, .wall, 86400⟩, 0⟩,
   ⟨1993, 1993, ⟨4, .on 2, .wall, 0⟩, 3600⟩,
   ⟨1993, 1993, ⟨9, .on 5, .wall, 0⟩, 0⟩,
   ⟨1994, 1994, ⟨4, .on 1, .wall, 0⟩, 3600⟩,
   ⟨1994, 1994, ⟨8, .on 28, .wall, 0⟩, 0⟩,
   ⟨1995, 1995, ⟨3, .on 31, .wall, 0⟩, 3600⟩,
   ⟨1995, 1995, ⟨9, .on 3, .wall, 0⟩, 0⟩,
   ⟨1996, 1996, ⟨3, .on 14, .wall, 86400⟩, 3600⟩,
   ⟨1996, 1996, ⟨9, .on 15, .wall, 86400⟩, 0⟩,
   ⟨1997, 1997, ⟨3, .on 20, .wall, 86400⟩, 3600⟩,
   ⟨1997, 1997, ⟨9, .on 13, .wall, 86400⟩, 0⟩,
   ⟨1998, 1998, ⟨3, .on 20, .wall, 0⟩, 3600⟩,
   ⟨1998, 1998, ⟨9, .on 6, .wall, 0⟩, 0⟩,
   ⟨1999, 1999, ⟨4, .on 2, .wall, 7200⟩, 3600⟩,
   ⟨1999, 1999, ⟨9, .on 3, .wall, 7200⟩, 0⟩,
   ⟨2000, 2000, ⟨4, .on 14, .wall, 7200⟩, 3600⟩,
   ⟨2000, 2000, ⟨10, .on 6, .wall, 3600⟩, 0⟩,
   ⟨2001, 2001, ⟨4, .on 9, .wall, 3600⟩, 3600⟩,
   ⟨2001, 2001, ⟨9, .on 24, .wall, 3600⟩, 0⟩,
   ⟨2002, 2002, ⟨3, .on 29, .wall, 3600⟩, 3600⟩,
   ⟨2002, 2002, ⟨10, .on 7, .wall, 3600⟩, 0⟩,
   ⟨2003, 2003, ⟨3, .on 28, .wall, 3600⟩, 3600⟩,
   ⟨2003, 2003, ⟨10, .on 3, .wall, 3600⟩, 0⟩,
   ⟨2004, 2004, ⟨4, .on 7, .wall, 3600⟩, 3600⟩,
   ⟨2004, 2004, ⟨9, .on 22, .wall, 3600⟩, 0⟩,
   ⟨2005, 2012, ⟨4, .onOrBefore .fri 1, .wall, 7200⟩, 3600⟩,
   ⟨2005, 2005, ⟨10, .on 9, .wall, 7200⟩, 0⟩,
   ⟨2006, 2006, ⟨10, .on 1, .wall, 7200⟩, 0⟩,
   ⟨2007, 2007, ⟨9, .on 16, .wall, 7200⟩, 0⟩,
   ⟨2008, 2008, ⟨10, .on 5, .wall, 7200⟩, 0⟩,
   ⟨2009, 2009, ⟨9, .on 27, .wall, 7200⟩, 0⟩,
   ⟨2010, 2010, ⟨9, .on 12, .wall, 7200⟩, 0⟩,
   ⟨2011, 2011, ⟨10, .on 2, .wall, 7200⟩, 0⟩,
   ⟨2012, 2012, ⟨9, .on 23, .wall, 7200⟩, 0⟩,
   ⟨2013, 2099, ⟨3, .onOrAfter .fri 23, .wall, 7200⟩, 3600⟩,
   ⟨2013, 2099, ⟨10, .last .sun, .wall, 7200⟩, 0⟩]

def japan : List SavingRule :=
  [⟨1948, 1948, ⟨5, .onOrAfter .sat 1, .wall, 86400⟩, 3600⟩,
   ⟨1948, 1951, ⟨9, .onOrAfter .sun 9, .wall, 3600⟩, 0⟩,
   ⟨1949, 1949, ⟨4, .onOrAfter .sat 1, .wall, 86400⟩, 3600⟩,
   ⟨1950, 1951, ⟨5, .onOrAfter .sat 1, .wall, 86400⟩, 3600⟩]

def jordan : List SavingRule :=
  [⟨1973, 1973, ⟨6, .on 6, .wall, 0⟩, 3600⟩,
   ⟨1973, 1975, ⟨10, .on 1, .wall, 0⟩, 0⟩,
   ⟨1974, 1977, ⟨5, .on 1, .wall, 0⟩, 3600⟩,
   ⟨1976, 1976, ⟨11, .on 1, .wall, 0⟩, 0⟩,
   ⟨1977, 1977, ⟨10, .on 1, .wall, 0⟩, 0⟩,
   ⟨1978, 1978, ⟨4, .on 30, .wall, 0⟩, 3600⟩,
   ⟨1978, 1978, ⟨9, .on 30, .wall, 0⟩, 0⟩,
   ⟨1985, 1985, ⟨4, .on 1, .wall, 0⟩, 3600⟩,
   ⟨1985, 1985, ⟨10, .on 1, .wall, 0⟩, 0⟩,
   ⟨1986, 1988, ⟨4, .onOrAfter .fri 1, .wall, 0⟩, 3600⟩,
   ⟨1986, 1990, ⟨10, .onOrAfter .fri 1, .wall, 0⟩, 0⟩,
   ⟨1989, 1989, ⟨5, .on 8, .wall, 0⟩, 3600⟩,
   ⟨1990, 1990, ⟨4, .on 27, .wall, 0⟩, 3600⟩,
   ⟨1991, 1991, ⟨4, .on 17, .wall, 0⟩, 3600⟩,
   ⟨1991, 1991, ⟨9, .on 27, .wall, 0⟩, 0⟩,
   ⟨1992, 1992, ⟨4, .on 10, .wall, 0⟩, 3600⟩,
   ⟨1992, 1993, ⟨10, .onOrAfter .fri 1, .wall, 0⟩, 0⟩,
   ⟨1993, 1998, ⟨4, .onOrAfter .fri 1, .wall, 0⟩, 3600⟩,
   ⟨1994, 1994, ⟨9, .onOrAfter .fri 15, .wall, 0⟩, 0⟩,
   ⟨1995, 1998, ⟨9, .onOrAfter .fri 15, .standard, 0⟩, 0⟩,
   ⟨1999, 1999, ⟨7, .on 1, .standard, 0⟩, 3600⟩,
   ⟨1999, 2002, ⟨9, .last .fri, .standard, 0⟩, 0⟩,
   ⟨2000, 2001, ⟨3, .last .thu, .standard, 0⟩, 3600⟩,
   ⟨2002, 2012, ⟨3, .last .thu, .wall, 86400⟩, 3600⟩,
   ⟨2003, 2003, ⟨10, .on 24, .standard, 0⟩, 0⟩,
   ⟨2004, 2004, ⟨10, .on 15, .standard, 0⟩, 0⟩,
   ⟨2005, 2005, ⟨9, .last .fri, .standard, 0⟩, 0⟩,
   ⟨2006, 2011, ⟨10, .last .fri, .standard, 0⟩, 0⟩,
   ⟨2013, 2013, ⟨12, .on 20, .wall, 0⟩, 0⟩,
   ⟨2014, 2021, ⟨3, .last .thu, .wall, 86400⟩, 3600⟩,
   ⟨2014, 2022, ⟨10, .last .fri, .standard, 0⟩, 0⟩,
   ⟨2022, 2022, ⟨2, .last .thu, .wall, 86400⟩, 3600⟩]

def kyrgyzstan : List SavingRule :=
  [⟨1992, 1996, ⟨4, .onOrAfter .sun 7, .standard, 0⟩, 3600⟩,
   ⟨1992, 1996, ⟨9, .last .sun, .wall, 0⟩, 0⟩,
   ⟨1997, 2005, ⟨3, .last .sun, .wall, 9000⟩, 3600⟩,
   ⟨1997, 2004, ⟨10, .last .sun, .wall, 9000⟩, 0⟩]

def southKorea : List SavingRule :=
  [⟨1948, 1948, ⟨6, .on 1, .wall, 0⟩, 3600⟩,
   ⟨1948, 1948, ⟨9, .on 12, .wall, 86400⟩, 0⟩,
   ⟨1949, 1949, ⟨4, .on 3, .wall, 0⟩, 3600⟩,
   ⟨1949, 1951, ⟨9, .onOrAfter .sat 7, .wall, 86400⟩, 0⟩,
   ⟨1950, 1950, ⟨4, .on 1, .wall, 0⟩, 3600⟩,
   ⟨1951, 1951, ⟨5, .on 6, .wall, 0⟩, 3600⟩,
   ⟨1955, 1955, ⟨5, .on 5, .wall, 0⟩, 3600⟩,
   ⟨1955, 1955, ⟨9, .on 8, .wall, 86400⟩, 0⟩,
   ⟨1956, 1956, ⟨5, .on 20, .wall, 0⟩, 3600⟩,
   ⟨1956, 1956, ⟨9, .on 29, .wall, 86400⟩, 0⟩,
   ⟨1957, 1960, ⟨5, .onOrAfter .sun 1, .wall, 0⟩, 3600⟩,
   ⟨1957, 1960, ⟨9, .onOrAfter .sat 17, .wall, 86400⟩, 0⟩,
   ⟨1987, 1988, ⟨5, .onOrAfter .sun 8, .wall, 7200⟩, 3600⟩,
   ⟨1987, 1988, ⟨10, .onOrAfter .sun 8, .wall, 10800⟩, 0⟩]

def lebanon : List SavingRule :=
  [⟨1920, 1920, ⟨3, .on 28, .wall, 0⟩, 3600⟩,
   ⟨1920, 1920, ⟨10, .on 25, .wall, 0⟩, 0⟩,
   ⟨1921, 1921, ⟨4, .on 3, .wall, 0⟩, 3600⟩,
   ⟨1921, 1921, ⟨10, .on 3, .wall, 0⟩, 0⟩,
   ⟨1922, 1922, ⟨3, .on 26, .wall, 0⟩, 3600⟩,
   ⟨1922, 1922, ⟨10, .on 8, .wall, 0⟩, 0⟩,
   ⟨1923, 1923, ⟨4, .on 22, .wall, 0⟩, 3600⟩,
   ⟨1923, 1923, ⟨9, .on 16, .wall, 0⟩, 0⟩,
   ⟨1957, 1961, ⟨5, .on 1, .wall, 0⟩, 3600⟩,
   ⟨1957, 1961, ⟨10, .on 1, .wall, 0⟩, 0⟩,
   ⟨1972, 1972, ⟨6, .on 22, .wall, 0⟩, 3600⟩,
   ⟨1972, 1977, ⟨10, .on 1, .wall, 0⟩, 0⟩,
   ⟨1973, 1977, ⟨5, .on 1, .wall, 0⟩, 3600⟩,
   ⟨1978, 1978, ⟨4, .on 30, .wall, 0⟩, 3600⟩,
   ⟨1978, 1978, ⟨9, .on 30, .wall, 0⟩, 0⟩,
   ⟨1984, 1987, ⟨5, .on 1, .wall, 0⟩, 3600⟩,
   ⟨1984, 1991, ⟨10, .on 16, .wall, 0⟩, 0⟩,
   ⟨1988, 1988, ⟨6, .on 1, .wall, 0⟩, 3600⟩,
   ⟨1989, 1989, ⟨5, .on 10, .wall, 0⟩, 3600⟩,
   ⟨1990, 1992, ⟨5, .on 1, .wall, 0⟩, 3600⟩,
   ⟨1992, 1992, ⟨10, .on 4, .wall, 0⟩, 0⟩,
   ⟨1993, 2099, ⟨3, .last .sun, .wall, 0⟩, 3600⟩,
   ⟨1993, 1998, ⟨9, .last .sun, .wall, 0⟩, 0⟩,
   ⟨1999, 2099, ⟨10, .last .sun, .wall, 0⟩, 0⟩]

def northBorneo : List SavingRule :=
  [⟨1935, 1941, ⟨9, .on 14, .wall, 0⟩, 1200⟩,
   ⟨1935, 1941, ⟨12, .on 14, .wall, 0⟩, 0⟩]

def mongolia : List SavingRule :=
  [⟨1983, 1984, ⟨4, .on 1, .wall, 0⟩, 3600⟩,
   ⟨1983, 1983, ⟨10, .on 1, .wall, 0⟩, 0⟩,
   ⟨1985, 1998, ⟨3, .last .sun, .wall, 0⟩, 3600⟩,
   ⟨1984, 1998, ⟨9, .last .sun, .wall, 0⟩, 0⟩,
   ⟨2001, 2001, ⟨4, .last .sat, .wall, 7200⟩, 3600⟩,
   ⟨2001, 2006, ⟨9, .last .sat, .wall, 7200⟩, 0⟩,
   ⟨2002, 2006, ⟨3, .last .sat, .wall, 7200⟩, 3600⟩,
   ⟨2015, 2016, ⟨3, .last .sat, .wall, 7200⟩, 3600⟩,
   ⟨2015, 2016, ⟨9, .last .sat, .wall, 0⟩, 0⟩]

def pakistan : List SavingRule :=
  [⟨2002, 2002, ⟨4, .onOrAfter .sun 2, .wall, 0⟩, 3600⟩,
   ⟨2002, 2002, ⟨10, .onOrAfter .sun 2, .wall, 0⟩, 0⟩,
   ⟨2008, 2008, ⟨6, .on 1, .wall, 0⟩, 3600⟩,
   ⟨2008, 2009, ⟨11, .on 1, .wall, 0⟩, 0⟩,
   ⟨2009, 2009, ⟨4, .on 15, .wall, 0⟩, 3600⟩]

def palestine : List SavingRule :=
  [⟨1999, 2005, ⟨4, .onOrAfter .fri 15, .wall, 0⟩, 3600⟩,
   ⟨1999, 2003, ⟨10, .onOrAfter .fri 15, .wall, 0⟩, 0⟩,
   ⟨2004, 2004, ⟨10, .on 1, .wall, 3600⟩, 0⟩,
   ⟨2005, 2005, ⟨10, .on 4, .wall, 7200⟩, 0⟩,
   ⟨2006, 2007, ⟨4, .on 1, .wall, 0⟩, 3600⟩,
   ⟨2006, 2006, ⟨9, .on 22, .wall, 0⟩, 0⟩,
   ⟨2007, 2007, ⟨9, .on 13, .wall, 7200⟩, 0⟩,
   ⟨2008, 2009, ⟨3, .last .fri, .wall, 0⟩, 3600⟩,
   ⟨2008, 2008, ⟨9, .on 1, .wall, 0⟩, 0⟩,
   ⟨2009, 2009, ⟨9, .on 4, .wall, 3600⟩, 0⟩,
   ⟨2010, 2010, ⟨3, .on 26, .wall, 0⟩, 3600⟩,
   ⟨2010, 2010, ⟨8, .on 11, .wall, 0⟩, 0⟩,
   ⟨2011, 2011, ⟨4, .on 1, .wall, 60⟩, 3600⟩,
   ⟨2011, 2011, ⟨8, .on 1, .wall, 0⟩, 0⟩,
   ⟨2011, 2011, ⟨8, .on 30, .wall, 0⟩, 3600⟩,
   ⟨2011, 2011, ⟨9, .on 30, .wall, 0⟩, 0⟩,
   ⟨2012, 2014, ⟨3, .last .thu, .wall, 86400⟩, 3600⟩,
   ⟨2012, 2012, ⟨9, .on 21, .wall, 3600⟩, 0⟩,
   ⟨2013, 2013, ⟨9, .on 27, .wall, 0⟩, 0⟩,
   ⟨2014, 2014, ⟨10, .on 24, .wall, 0⟩, 0⟩,
   ⟨2015, 2015, ⟨3, .on 28, .wall, 0⟩, 3600⟩,
   ⟨2015, 2015, ⟨10, .on 23, .wall, 3600⟩, 0⟩,
   ⟨2016, 2018, ⟨3, .onOrBefore .sat 30, .wall, 3600⟩, 3600⟩,
   ⟨2016, 2018, ⟨10, .onOrBefore .sat 30, .wall, 3600⟩, 0⟩,
   ⟨2019, 2019, ⟨3, .on 29, .wall, 0⟩, 3600⟩,
   ⟨2019, 2019, ⟨10, .onOrBefore .sat 30, .wall, 0⟩, 0⟩,
   ⟨2020, 2021, ⟨3, .onOrBefore .sat 30, .wall, 0⟩, 3600⟩,
   ⟨2020, 2020, ⟨10, .on 24, .wall, 3600⟩, 0⟩,
   ⟨2021, 2021, ⟨10, .on 29, .wall, 3600⟩, 0⟩,
   ⟨2022, 2022, ⟨3, .on 27, .wall, 0⟩, 3600⟩,
   ⟨2022, 2035, ⟨10, .onOrBefore .sat 30, .wall, 7200⟩, 0⟩,
   ⟨2023, 2023, ⟨4, .on 29, .wall, 7200⟩, 3600⟩,
   ⟨2024, 2024, ⟨4, .on 20, .wall, 7200⟩, 3600⟩,
   ⟨2025, 2025, ⟨4, .on 12, .wall, 7200⟩, 3600⟩,
   ⟨2026, 2054, ⟨3, .onOrBefore .sat 30, .wall, 7200⟩, 3600⟩,
   ⟨2036, 2036, ⟨10, .on 18, .wall, 7200⟩, 0⟩,
   ⟨2037, 2037, ⟨10, .on 10, .wall, 7200⟩, 0⟩,
   ⟨2038, 2038, ⟨9, .on 25, .wall, 7200⟩, 0⟩,
   ⟨2039, 2039, ⟨9, .on 17, .wall, 7200⟩, 0⟩,
   ⟨2040, 2040, ⟨9, .on 1, .wall, 7200⟩, 0⟩,
   ⟨2040, 2040, ⟨10, .on 20, .wall, 7200⟩, 3600⟩,
   ⟨2040, 2067, ⟨10, .onOrBefore .sat 30, .wall, 7200⟩, 0⟩,
   ⟨2041, 2041, ⟨8, .on 24, .wall, 7200⟩, 0⟩,
   ⟨2041, 2041, ⟨10, .on 5, .wall, 7200⟩, 3600⟩,
   ⟨2042, 2042, ⟨8, .on 16, .wall, 7200⟩, 0⟩,
   ⟨2042, 2042, ⟨9, .on 27, .wall, 7200⟩, 3600⟩,
   ⟨2043, 2043, ⟨8, .on 1, .wall, 7200⟩, 0⟩,
   ⟨2043, 2043, ⟨9, .on 19, .wall, 7200⟩, 3600⟩,
   ⟨2044, 2044, ⟨7, .on 23, .wall, 7200⟩, 0⟩,
   ⟨2044, 2044, ⟨9, .on 3, .wall, 7200⟩, 3600⟩,
   ⟨2045, 2045, ⟨7, .on 15, .wall, 7200⟩, 0⟩,
   ⟨2045, 2045, ⟨8, .on 26, .wall, 7200⟩, 3600⟩,
   ⟨2046, 2046, ⟨6, .on 30, .wall, 7200⟩, 0⟩,
   ⟨2046, 2046, ⟨8, .on 18, .wall, 7200⟩, 3600⟩,
   ⟨2047, 2047, ⟨6, .on 22, .wall, 7200⟩, 0⟩,
   ⟨2047, 2047, ⟨8, .on 3, .wall, 7200⟩, 3600⟩,
   ⟨2048, 2048, ⟨6, .on 6, .wall, 7200⟩, 0⟩,
   ⟨2048, 2048, ⟨7, .on 25, .wall, 7200⟩, 3600⟩,
   ⟨2049, 2049, ⟨5, .on 29, .wall, 7200⟩, 0⟩,
   ⟨2049, 2049, ⟨7, .on 10, .wall, 7200⟩, 3600⟩,
   ⟨2050, 2050, ⟨5, .on 21, .wall, 7200⟩, 0⟩,
   ⟨2050, 2050, ⟨7, .on 2, .wall, 7200⟩, 3600⟩,
   ⟨2051, 2051, ⟨5, .on 6, .wall, 7200⟩, 0⟩,
   ⟨2051, 2051, ⟨6, .on 24, .wall, 7200⟩, 3600⟩,
   ⟨2052, 2052, ⟨4, .on 27, .wall, 7200⟩, 0⟩,
   ⟨2052, 2052, ⟨6, .on 8, .wall, 7200⟩, 3600⟩,
   ⟨2053, 2053, ⟨4, .on 12, .wall, 7200⟩, 0⟩,
   ⟨2053, 2053, ⟨5, .on 31, .wall, 7200⟩, 3600⟩,
   ⟨2054, 2054, ⟨4, .on 4, .wall, 7200⟩, 0⟩,
   ⟨2054, 2054, ⟨5, .on 23, .wall, 7200⟩, 3600⟩,
   ⟨2055, 2055, ⟨5, .on 8, .wall, 7200⟩, 3600⟩,
   ⟨2056, 2056, ⟨4, .on 29, .wall, 7200⟩, 3600⟩,
   ⟨2057, 2057, ⟨4, .on 14, .wall, 7200⟩, 3600⟩,
   ⟨2058, 2058, ⟨4, .on 6, .wall, 7200⟩, 3600⟩,
   ⟨2059, 2099, ⟨3, .onOrBefore .sat 30, .wall, 7200⟩, 3600⟩,
   ⟨2068, 2068, ⟨10, .on 20, .wall, 7200⟩, 0⟩,
   ⟨2069, 2069, ⟨10, .on 12, .wall, 7200⟩, 0⟩,
   ⟨2070, 2070, ⟨10, .on 4, .wall, 7200⟩, 0⟩,
   ⟨2071, 2071, ⟨9, .on 19, .wall, 7200⟩, 0⟩,
   ⟨2072, 2072, ⟨9, .on 10, .wall, 7200⟩, 0⟩,
   ⟨2072, 2072, ⟨10, .on 22, .wall, 7200⟩, 3600⟩,
   ⟨2072, 2099, ⟨10, .onOrBefore .sat 30, .wall, 7200⟩, 0⟩,
   ⟨2073, 2073, ⟨9, .on 2, .wall, 7200⟩, 0⟩,
   ⟨2073, 2073, ⟨10, .on 14, .wall, 7200⟩, 3600⟩,
   ⟨2074, 2074, ⟨8, .on 18, .wall, 7200⟩, 0⟩,
   ⟨2074, 2074, ⟨10, .on 6, .wall, 7200⟩, 3600⟩,
   ⟨2075, 2075, ⟨8, .on 10, .wall, 7200⟩, 0⟩,
   ⟨2075, 2075, ⟨9, .on 21, .wall, 7200⟩, 3600⟩,
   ⟨2076, 2076, ⟨7, .on 25, .wall, 7200⟩, 0⟩,
   ⟨2076, 2076, ⟨9, .on 12, .wall, 7200⟩, 3600⟩,
   ⟨2077, 2077, ⟨7, .on 17, .wall, 7200⟩, 0⟩,
   ⟨2077, 2077, ⟨9, .on 4, .wall, 7200⟩, 3600⟩,
   ⟨2078, 2078, ⟨7, .on 9, .wall, 7200⟩, 0⟩,
   ⟨2078, 2078, ⟨8, .on 20, .wall, 7200⟩, 3600⟩,
   ⟨2079, 2079, ⟨6, .on 24, .wall, 7200⟩, 0⟩,
   ⟨2079, 2079, ⟨8, .on 12, .wall, 7200⟩, 3600⟩,
   ⟨2080, 2080, ⟨6, .on 15, .wall, 7200⟩, 0⟩,
   ⟨2080, 2080, ⟨7, .on 27, .wall, 7200⟩, 3600⟩,
   ⟨2081, 2081, ⟨6, .on 7, .wall, 7200⟩, 0⟩,
   ⟨2081, 2081, ⟨7, .on 19, .wall, 7200⟩, 3600⟩,
   ⟨2082, 2082, ⟨5, .on 23, .wall, 7200⟩, 0⟩,
   ⟨2082, 2082, ⟨7, .on 11, .wall, 7200⟩, 3600⟩,
   ⟨2083, 2083, ⟨5, .on 15, .wall, 7200⟩, 0⟩,
   ⟨2083, 2083, ⟨6, .on 26, .wall, 7200⟩, 3600⟩,
   ⟨2084, 2084, ⟨4, .on 29, .wall, 7200⟩, 0⟩,
   ⟨2084, 2084, ⟨6, .on 17, .wall, 7200⟩, 3600⟩,
   ⟨2085, 2085, ⟨4, .on 21, .wall, 7200⟩, 0⟩,
   ⟨2085, 2085, ⟨6, .on 9, .wall, 7200⟩, 3600⟩,
   ⟨2086, 2086, ⟨4, .on 13, .wall, 7200⟩, 0⟩,
   ⟨2086, 2086, ⟨5, .on 25, .wall, 7200⟩, 3600⟩]

def philippines : List SavingRule :=
  [⟨1936, 1936, ⟨10, .on 31, .wall, 86400⟩, 3600⟩,
   ⟨1937, 1937, ⟨1, .on 15, .wall, 86400⟩, 0⟩,
   ⟨1941, 1941, ⟨12, .on 15, .wall, 86400⟩, 3600⟩,
   ⟨1945, 1945, ⟨11, .on 30, .wall, 86400⟩, 0⟩,
   ⟨1954, 1954, ⟨4, .on 11, .wall, 86400⟩, 3600⟩,
   ⟨1954, 1954, ⟨6, .on 4, .wall, 86400⟩, 0⟩,
   ⟨1977, 1977, ⟨3, .on 27, .wall, 86400⟩, 3600⟩,
   ⟨1977, 1977, ⟨9, .on 21, .wall, 86400⟩, 0⟩,
   ⟨1990, 1990, ⟨5, .on 21, .wall, 0⟩, 3600⟩,
   ⟨1990, 1990, ⟨7, .on 28, .wall, 86400⟩, 0⟩]

def syria : List SavingRule :=
  [⟨1920, 1923, ⟨4, .onOrAfter .sun 15, .wall, 7200⟩, 3600⟩,
   ⟨1920, 1923, ⟨10, .onOrAfter .sun 1, .wall, 7200⟩, 0⟩,
   ⟨1962, 1962, ⟨4, .on 29, .wall, 7200⟩, 3600⟩,
   ⟨1962, 1962, ⟨10, .on 1, .wall, 7200⟩, 0⟩,
   ⟨1963, 1965, ⟨5, .on 1, .wall, 7200⟩, 3600⟩,
   ⟨1963, 1963, ⟨9, .on 30, .wall, 7200⟩, 0⟩,
   ⟨1964, 1964, ⟨10, .on 1, .wall, 7200⟩, 0⟩,
   ⟨1965, 1965, ⟨9, .on 30, .wall, 7200⟩, 0⟩,
   ⟨1966, 1966, ⟨4, .on 24, .wall, 7200⟩, 3600⟩,
   ⟨1966, 1976, ⟨10, .on 1, .wall, 7200⟩, 0⟩,
   ⟨1967, 1978, ⟨5, .on 1, .wall, 7200⟩, 3600⟩,
   ⟨1977, 1978, ⟨9, .on 1, .wall, 7200⟩, 0⟩,
   ⟨1983, 1984, ⟨4, .on 9, .wall, 7200⟩, 3600⟩,
   ⟨1983, 1984, ⟨10, .on 1, .wall, 7200⟩, 0⟩,
   ⟨1986, 1986, ⟨2, .on 16, .wall, 7200⟩, 3600⟩,
   ⟨1986, 1986, ⟨10, .on 9, .wall, 7200⟩, 0⟩,
   ⟨1987, 1987, ⟨3, .on 1, .wall, 7200⟩, 3600⟩,
   ⟨1987, 1988, ⟨10, .on 31, .wall, 7200⟩, 0⟩,
   ⟨1988, 1988, ⟨3, .on 15, .wall, 7200⟩, 3600⟩,
   ⟨1989, 1989, ⟨3, .on 31, .wall, 7200⟩, 3600⟩,
   ⟨1989, 1989, ⟨10, .on 1, .wall, 7200⟩, 0⟩,
   ⟨1990, 1990, ⟨4, .on 1, .wall, 7200⟩, 3600⟩,
   ⟨1990, 1990, ⟨9, .on 30, .wall, 7200⟩, 0⟩,
   ⟨1991, 1991, ⟨4, .on 1, .wall, 0⟩, 3600⟩,
   ⟨1991, 1992, ⟨10, .on 1, .wall, 0⟩, 0⟩,
   ⟨1992, 1992, ⟨4, .on 8, .wall, 0⟩, 3600⟩,
   ⟨1993, 1993, ⟨3, .on 26, .wall, 0⟩, 3600⟩,
   ⟨1993, 1993, ⟨9, .on 25, .wall, 0⟩, 0⟩,
   ⟨1994, 1996, ⟨4, .on 1, .wall, 0⟩, 3600⟩,
   ⟨1994, 2005, ⟨10, .on 1, .wall, 0⟩, 0⟩,
   ⟨1997, 1998, ⟨3, .last .mon, .wall, 0⟩, 3600⟩,
   ⟨1999, 2006, ⟨4, .on 1, .wall, 0⟩, 3600⟩,
   ⟨2006, 2006, ⟨9, .on 22, .wall, 0⟩, 0⟩,
   ⟨2007, 2007, ⟨3, .last .fri, .wall, 0⟩, 3600⟩,
   ⟨2007, 2007, ⟨11, .onOrAfter .fri 1, .wall, 0⟩, 0⟩,
   ⟨2008, 2008, ⟨4, .onOrAfter .fri 1, .wall, 0⟩, 3600⟩,
   ⟨2008, 2008, ⟨11, .on 1, .wall, 0⟩, 0⟩,
   ⟨2009, 2009, ⟨3, .last .fri, .wall, 0⟩, 3600⟩,
   ⟨2010, 2011, ⟨4, .onOrAfter .fri 1, .wall, 0⟩, 3600⟩,
   ⟨2012, 2022, ⟨3, .last .fri, .wall, 0⟩, 3600⟩,
   ⟨2009, 2022, ⟨10, .last .fri, .wall, 0⟩, 0⟩]

def asiaZones1 : List (String × List Era) :=
  [("Asia/Almaty",
    [⟨18468, .fixed 0, some (1924, ⟨5, .on 2, .wall, 0⟩)⟩,
     ⟨18000, .fixed 0, some (1930, ⟨6, .on 21, .wall, 0⟩)⟩,
     ⟨21600, .byRules russia, some (1991, ⟨3, .on 31, .standard, 7200⟩)⟩,
     ⟨18000, .byRules russia, some (1992, ⟨1, .on 19, .standard, 7200⟩)⟩,
     ⟨21600, .byRules russia, some (2004, ⟨10, .on 31, .standard, 7200⟩)⟩,
     ⟨21600, .fixed 0, some (2024, ⟨3, .on 1, .wall, 0⟩)⟩,
     ⟨18000, .fixed 0, none⟩]),
   ("Asia/Amman",
    [⟨8624, .fixed 0, some (1931, ⟨1, .on 1, .wall, 0⟩)⟩,
     ⟨7200, .byRules jordan, some (2022, ⟨10, .on 28, .standard, 0⟩)⟩,
     ⟨10800, .fixed 0, none⟩]),
   ("Asia/Anadyr",
    [⟨42596, .fixed 0, some (1924, ⟨5, .on 2, .wall, 0⟩)⟩,
     ⟨43200, .fixed 0, some (1930, ⟨6, .on 21, .wall, 0⟩)⟩,
     ⟨46800, .byRules russia, some (1982, ⟨4, .on 1, .standard, 0⟩)⟩,
     ⟨43200, .byRules russia, some (1991, ⟨3, .on 31, .standard, 7200⟩)⟩,
     ⟨39600, .byRules russia, some (1992, ⟨1, .on 19, .standard, 7200⟩)⟩,
     ⟨43200, .byRules russia, some (2010, ⟨3, .on 28, .standard, 7200⟩)⟩,
     ⟨39600, .byRules russia, some (2011, ⟨3, .on 27, .standard, 7200⟩)⟩,
     ⟨43200, .fixed 0, none⟩]),
   ("Asia/Aqtau",
    [⟨12064, .fixed 0, some (1924, ⟨5, .on 2, .wall, 0⟩)⟩,
     ⟨14400, .fixed 0, some (1930, ⟨6, .on 21, .wall, 0⟩)⟩,
     ⟨18000, .fixed 0, some (1981, ⟨10, .on 1, .wall, 0⟩)⟩,
     ⟨21600, .fixed 0, some (1982, ⟨4, .on 1, .wall, 0⟩)⟩,
     ⟨18000, .byRules russia, some (1991, ⟨3, .on 31, .standard, 7200⟩)⟩,
     ⟨14400, .byRules russia, some (1992, ⟨1, .on 19, .standard, 7200⟩)⟩,
     ⟨18000, .byRules russia, some (1994, ⟨9, .on 25, .standard, 7200⟩)⟩,
     ⟨14400, .byRules russia, some (2004, ⟨10, .on 31, .standard, 7200⟩)⟩,
     ⟨18000, .fixed 0, none⟩]),
   ("Asia/Aqtobe",
    [⟨13720, .fixed 0, some (1924, ⟨5, .on 2, .wall, 0⟩)⟩,
     ⟨14400, .fixed 0, some (1930, ⟨6, .on 21, .wall, 0⟩)⟩,
     ⟨18000, .fixed 0, some (1981, ⟨4, .on 1, .wall, 0⟩)⟩,
     ⟨18000, .fixed 3600, some (1981, ⟨10, .on 1, .wall, 0⟩)⟩,
     ⟨21600, .fixed 0, some (1982, ⟨4, .on 1, .wall, 0⟩)⟩,
     ⟨18000, .byRules russia, some (1991, ⟨3, .on 31, .standard, 7200⟩)⟩,
     ⟨14400, .byRules russia, some (1992, ⟨1, .on 19, .standard, 7200⟩)⟩,
     ⟨18000, .byRules russia, some (2004, ⟨10, .on 31, .standard, 7200⟩)⟩,
     ⟨18000, .fixed 0, none⟩]),
   ("Asia/Ashgabat",
    [⟨14012, .fixed 0, some (1924, ⟨5, .on 2, .wall, 0⟩)⟩,
     ⟨14400, .fixed 0, some (1930, ⟨6, .on 21, .wall, 0⟩)⟩,
     ⟨18000, .byRules russia, some (1991, ⟨3, .on 31, .wall, 7200⟩)⟩,
     ⟨14400, .byRules russia, some (1992, ⟨1, .on 19, .wall, 7200⟩)⟩,
     ⟨18000, .fixed 0, none⟩]),
   ("Asia/Atyrau",
    [⟨12464, .fixed 0, some (1924, ⟨5, .on 2, .wall, 0⟩)⟩,
     ⟨10800, .fixed 0, some (1930, ⟨6, .on 21, .wall, 0⟩)⟩,
     ⟨18000, .fixed 0, some (1981, ⟨10, .on 1, .wall, 0⟩)⟩,
     ⟨21600, .fixed 0, some (1982, ⟨4, .on 1, .wall, 0⟩)⟩,
     ⟨18000, .byRules russia, some (1991, ⟨3, .on 31, .standard, 7200⟩)⟩,
     ⟨14400, .byRules russia, some (1992, ⟨1, .on 19, .standard, 7200⟩)⟩,
     ⟨18000, .byRules russia, some (1999, ⟨3, .on 28, .standard, 7200⟩)⟩,
     ⟨14400, .byRules russia, some (2004, ⟨10, .on 31, .standard, 7200⟩)⟩,
     ⟨18000, .fixed 0, none⟩]),
   ("Asia/Baghdad",
    [⟨10660, .fixed 0, some (1890, ⟨1, .on 1, .wall, 0⟩)⟩,
     ⟨10656, .fixed 0, some (1918, ⟨1, .on 1, .wall, 0⟩)⟩,
     ⟨10800, .fixed 0, some (1982, ⟨5, .on 1, .wall, 0⟩)⟩,
     ⟨10800, .byRules iraq, none⟩]),
   ("Asia/Baku",
    [⟨11964, .fixed 0, some (1924, ⟨5, .on 2, .wall, 0⟩)⟩,
     ⟨10800, .fixed 0, some (1957, ⟨3, .on 1, .wall, 0⟩)⟩,
     ⟨14400, .byRules russia, some (1991, ⟨3, .on 31, .standard, 7200⟩)⟩,
     ⟨10800, .byRules russia, some (1992, ⟨9, .last .sun, .standard, 7200⟩)⟩,
     ⟨14400, .fixed 0, some (1996, ⟨1, .on 1, .wall, 0⟩)⟩,
     ⟨14400, .byRules europeanUnion, some (1997, ⟨1, .on 1, .wall, 0⟩)⟩,
     ⟨14400, .byRules azerbaijan, none⟩]),
   ("Asia/Bangkok",
    [⟨24124, .fixed 0, some (1880, ⟨1, .on 1, .wall, 0⟩)⟩,
     ⟨24124, .fixed 0, some (1920, ⟨4, .on 1, .wall, 0⟩)⟩,
     ⟨25200, .fixed 0, none⟩]),
   ("Asia/Barnaul",
    [⟨20100, .fixed 0, some (1919, ⟨12, .on 10, .wall, 0⟩)⟩,
     ⟨21600, .fixed 0, some (1930, ⟨6, .on 21, .wall, 0⟩)⟩,
     ⟨25200, .byRules russia, some (1991, ⟨3, .on 31, .standard, 7200⟩)⟩,
     ⟨21600, .byRules russia, some (1992, ⟨1, .on 19, .standard, 7200⟩)⟩,
     ⟨25200, .byRules russia, some (1995, ⟨5, .on 28, .wall, 0⟩)⟩,
     ⟨21600, .byRules russia, some (2011, ⟨3, .on 27, .standard, 7200⟩)⟩,
     ⟨25200, .fixed 0, some (2014, ⟨10, .on 26, .standard, 7200⟩)⟩,
     ⟨21600, .fixed 0, some (2016, ⟨3, .on 27, .standard, 7200⟩)⟩,
     ⟨25200, .fixed 0, none⟩]),
   ("Asia/Beirut",
    [⟨8520, .fixed 0, some (1880, ⟨1, .on 1, .wall, 0⟩)⟩,
     ⟨7200, .byRules lebanon, none⟩]),
   ("Asia/Bishkek",
    [⟨17904, .fixed 0, some (1924, ⟨5, .on 2, .wall, 0⟩)⟩,
     ⟨18000, .fixed 0, some (1930, ⟨6, .on 21, .wall, 0⟩)⟩,
     ⟨21600, .byRules russia, some (1991, ⟨3, .on 31, .standard, 7200⟩)⟩,
     ⟨18000, .byRules russia, some (1991, ⟨8, .on 31, .wall, 7200⟩)⟩,
     ⟨18000, .byRules kyrgyzstan, some (2005, ⟨8, .on 12, .wall, 0⟩)⟩,
     ⟨21600, .fixed 0, none⟩]),
   ("Asia/Chita",
    [⟨27232, .fixed 0, some (1919, ⟨12, .on 15, .wall, 0⟩)⟩,
     ⟨28800, .fixed 0, some (1930, ⟨6, .on 21, .wall, 0⟩)⟩,
     ⟨32400, .byRules russia, some (1991, ⟨3, .on 31, .standard, 7200⟩)⟩,
     ⟨28800, .byRules russia, some (1992, ⟨1, .on 19, .standard, 7200⟩)⟩,
     ⟨32400, .byRules russia, some (2011, ⟨3, .on 27, .standard, 7200⟩)⟩,
     ⟨36000, .fixed 0, some (2014, ⟨10, .on 26, .standard, 7200⟩)⟩,
     ⟨28800, .fixed 0, some (2016, ⟨3, .on 27, .wall, 7200⟩)⟩,
     ⟨32400, .fixed 0, none⟩]),
   ("Asia/Colombo",
    [⟨19164, .fixed 0, some (1880, ⟨1, .on 1, .wall, 0⟩)⟩,
     ⟨19172, .fixed 0, some (1906, ⟨1, .on 1, .wall, 0⟩)⟩,
     ⟨19800, .fixed 0, some (1942, ⟨1, .on 5, .wall, 0⟩)⟩,
     ⟨19800, .fixed 1800, some (1942, ⟨9, .on 1, .wall, 0⟩)⟩,
     ⟨19800, .fixed 3600, some (1945, ⟨10, .on 16, .wall, 7200⟩)⟩,
     ⟨19800, .fixed 0, some (1996, ⟨5, .on 25, .wall, 0⟩)⟩,
     ⟨23400, .fixed 0, some (1996, ⟨10, .on 26, .wall, 1800⟩)⟩,
     ⟨21600, .fixed 0, some (2006, ⟨4, .on 15, .wall, 1800⟩)⟩,
     ⟨19800, .fixed 0, none⟩]),
   ("Asia/Damascus",
    [⟨8712, .fixed 0, some (1920, ⟨1, .on 1, .wall, 0⟩)⟩,
     ⟨7200, .byRules syria, some (2022, ⟨10, .on 28, .wall, 0⟩)⟩,
     ⟨10800, .fixed 0, none⟩]),
   ("Asia/Dhaka",
    [⟨21700, .fixed 0, some (1890, ⟨1, .on 1, .wall, 0⟩)⟩,
     ⟨21200, .fixed 0, some (1941, ⟨10, .on 1, .wall, 0⟩)⟩,
     ⟨23400, .fixed 0, some (1942, ⟨5, .on 15, .wall, 0⟩)⟩,
     ⟨19800, .fixed 0, some (1942, ⟨9, .on 1, .wall, 0⟩)⟩,
     ⟨23400, .fixed 0, some (1951, ⟨9, .on 30, .wall, 0⟩)⟩,
     ⟨21600, .fixed 0, some (2009, ⟨1, .on 1, .wall, 0⟩)⟩,
     ⟨21600, .byRules bangladesh, none⟩]),
   ("Asia/Dili",
    [⟨30140, .fixed 0, some (1911, ⟨12, .on 31, .universal, 57600⟩)⟩,
     ⟨28800, .fixed 0, some (1942, ⟨2, .on 21, .wall, 82800⟩)⟩,
     ⟨32400, .fixed 0, some (1976, ⟨5, .on 3, .wall, 0⟩)⟩,
     ⟨28800, .fixed 0, some (2000, ⟨9, .on 17, .wall, 0⟩)⟩,
     ⟨32400, .fixed 0, none⟩]),
   ("Asia/Dubai",
    [⟨13272, .fixed 0, some (1920, ⟨1, .on 1, .wall, 0⟩)⟩,
     ⟨14400, .fixed 0, none⟩]),
   ("Asia/Dushanbe",
    [⟨16512, .fixed 0, some (1924, ⟨5, .on 2, .wall, 0⟩)⟩,
     ⟨18000, .fixed 0, some (1930, ⟨6, .on 21, .wall, 0⟩)⟩,
     ⟨21600, .byRules russia, some (1991, ⟨3, .on 31, .standard, 7200⟩)⟩,
     ⟨18000, .fixed 3600, some (1991, ⟨9, .on 9, .standard, 7200⟩)⟩,
     ⟨18000, .fixed 0, none⟩]),
   ("Asia/Famagusta",
    [⟨8148, .fixed 0, some (1921, ⟨11, .on 14, .wall, 0⟩)⟩,
     ⟨7200, .byRules cyprus, some (1998, ⟨9, .on 1, .wall, 0⟩)⟩,
     ⟨7200, .byRules europeanUnion, some (2016, ⟨9, .on 8, .wall, 0⟩)⟩,
     ⟨10800, .fixed 0, some (2017, ⟨10, .on 29, .universal, 3600⟩)⟩,
     ⟨7200, .byRules europeanUnion, none⟩]),
   ("Asia/Gaza",
    [⟨8272, .fixed 0, some (1900, ⟨10, .on 1, .wall, 0⟩)⟩,
     ⟨7200, .byRules israel, some (1948, ⟨5, .on 15, .wall, 0⟩)⟩,
     ⟨7200, .byRules egypt, some (1967, ⟨6, .on 5, .wall, 0⟩)⟩,
     ⟨7200, .byRules israel, some (1996, ⟨1, .on 1, .wall, 0⟩)⟩,
     ⟨7200, .byRules jordan, some (1999, ⟨1, .on 1, .wall, 0⟩)⟩,
     ⟨7200, .byRules palestine, some (2008, ⟨8, .on 29, .wall, 0⟩)⟩,
     ⟨7200, .fixed 0, some (2008, ⟨9, .on 1, .wall, 0⟩)⟩,
     ⟨7200, .byRules palestine, some (2010, ⟨1, .on 1, .wall, 0⟩)⟩,
     ⟨7200, .fixed 0, some (2010, ⟨3, .on 27, .wall, 60⟩)⟩,
     ⟨7200, .byRules palestine, some (2011, ⟨8, .on 1, .wall, 0⟩)⟩,
     ⟨7200, .fixed 0, some (2012, ⟨1, .on 1, .wall, 0⟩)⟩,
     ⟨7200, .byRules palestine, none⟩]),
   ("Asia/Hebron",
    [⟨8423, .fixed 0, some (1900, ⟨10, .on 1, .wall, 0⟩)⟩,
     ⟨7200, .byRules israel, some (1948, ⟨5, .on 15, .wall, 0⟩)⟩,
     ⟨7200, .byRules egypt, some (1967, ⟨6, .on 5, .wall, 0⟩)⟩,
     ⟨7200, .byRules israel, some (1996, ⟨1, .on 1, .wall, 0⟩)⟩,
     ⟨7200, .byRules jordan, some (1999, ⟨1, .on 1, .wall, 0⟩)⟩,
     ⟨7200, .byRules palestine, none⟩]),
   ("Asia/Ho_Chi_Minh",
    [⟨25590, .fixed 0, some (1906, ⟨7, .on 1, .wall, 0⟩)⟩,
     ⟨25590, .fixed 0, some (1911, ⟨5, .on 1, .wall, 0⟩)⟩,
     ⟨25200, .fixed 0, some (1942, ⟨12, .on 31, .wall, 82800⟩)⟩,
     ⟨28800, .fixed 0, some (1945, ⟨3, .on 14, .wall, 82800⟩)⟩,
     ⟨32400, .fixed 0, some (1945, ⟨9, .on 1, .wall, 86400⟩)⟩,
     ⟨25200, .fixed 0, some (1947, ⟨4, .on 1, .wall, 0⟩)⟩,
     ⟨28800, .fixed 0, some (1955, ⟨7, .on 1, .wall, 3600⟩)⟩,
     ⟨25200, .fixed 0, some (1959, ⟨12, .on 31, .wall, 82800⟩)⟩,
     ⟨28800, .fixed 0, some (1975, ⟨6, .on 13, .wall, 0⟩)⟩,
     ⟨25200, .fixed 0, none⟩]),
   ("Asia/Hong_Kong",
    [⟨27402, .fixed 0, some (1904, ⟨10, .on 29, .universal, 61200⟩)⟩,
     ⟨28800, .fixed 0, some (1941, ⟨6, .on 15, .wall, 10800⟩)⟩,
     ⟨28800, .fixed 3600, some (1941, ⟨10, .on 1, .wall, 14400⟩)⟩,
     ⟨28800, .fixed 1800, some (1941, ⟨12, .on 25, .wall, 0⟩)⟩,
     ⟨32400, .fixed 0, some (1945, ⟨11, .on 18, .wall, 7200⟩)⟩,
     ⟨28800, .byRules hongKong, none⟩]),
   ("Asia/Hovd",
    [⟨21996, .fixed 0, some (1905, ⟨8, .on 1, .wall, 0⟩)⟩,
     ⟨21600, .fixed 0, some (1978, ⟨1, .on 1, .wall, 0⟩)⟩,
     ⟨25200, .byRules mongolia, none⟩]),
   ("Asia/Irkutsk",
    [⟨25025, .fixed 0, some (1880, ⟨1, .on 1, .wall, 0⟩)⟩,
     ⟨25025, .fixed 0, some (1920, ⟨1, .on 25, .wall, 0⟩)⟩,
     ⟨25200, .fixed 0, some (1930, ⟨6, .on 21, .wall, 0⟩)⟩,
     ⟨28800, .byRules russia, some (1991, ⟨3, .on 31, .standard, 7200⟩)⟩,
     ⟨25200, .byRules russia, some (1992, ⟨1, .on 19, .standard, 7200⟩)⟩,
     ⟨28800, .byRules russia, some (2011, ⟨3, .on 27, .standard, 7200⟩)⟩,
     ⟨32400, .fixed 0, some (2014, ⟨10, .on 26, .standard, 7200⟩)⟩,
     ⟨28800, .fixed 0, none⟩]),
   ("Asia/Jakarta",
    [⟨25632, .fixed 0, some (1867, ⟨8, .on 10, .wall, 0⟩)⟩,
     ⟨25632, .fixed 0, some (1923, ⟨12, .on 31, .universal, 60000⟩)⟩,
     ⟨26400, .fixed 0, some (1932, ⟨11, .on 1, .wall, 0⟩)⟩,
     ⟨27000, .fixed 0, some (1942, ⟨3, .on 23, .wall, 0⟩)⟩,
     ⟨32400, .fixed 0, some (1945, ⟨9, .on 23, .wall, 0⟩)⟩,
     ⟨27000, .fixed 0, some (1948, ⟨5, .on 1, .wall, 0⟩)⟩,
     ⟨28800, .fixed 0, some (1950, ⟨5, .on 1, .wall, 0⟩)⟩,
     ⟨27000, .fixed 0, some (1964, ⟨1, .on 1, .wall, 0⟩)⟩,
     ⟨25200, .fixed 0, none⟩]),
   ("Asia/Jayapura",
    [⟨33768, .fixed 0, some (1932, ⟨11, .on 1, .wall, 0⟩)⟩,
     ⟨32400, .fixed 0, some (1944, ⟨9, .on 1, .wall, 0⟩)⟩,
     ⟨34200, .fixed 0, some (1964, ⟨1, .on 1, .wall, 0⟩)⟩,
     ⟨32400, .fixed 0, none⟩]),
   ("Asia/Jerusalem",
    [⟨8454, .fixed 0, some (1880, ⟨1, .on 1, .wall, 0⟩)⟩,
     ⟨8440, .fixed 0, some (1918, ⟨1, .on 1, .wall, 0⟩)⟩,
     ⟨7200, .byRules israel, none⟩]),
   ("Asia/Kabul",
    [⟨16608, .fixed 0, some (1890, ⟨1, .on 1, .wall, 0⟩)⟩,
     ⟨14400, .fixed 0, some (1945, ⟨1, .on 1, .wall, 0⟩)⟩,
     ⟨16200, .fixed 0, none⟩]),
   ("Asia/Kamchatka",
    [⟨38076, .fixed 0, some (1922, ⟨11, .on 10, .wall, 0⟩)⟩,
     ⟨39600, .fixed 0, some (1930, ⟨6, .on 21, .wall, 0⟩)⟩,
     ⟨43200, .byRules russia, some (1991, ⟨3, .on 31, .standard, 7200⟩)⟩,
     ⟨39600, .byRules russia, some (1992, ⟨1, .on 19, .standard, 7200⟩)⟩,
     ⟨43200, .byRules russia, some (2010, ⟨3, .on 28, .standard, 7200⟩)⟩,
     ⟨39600, .byRules russia, some (2011, ⟨3, .on 27, .standard, 7200⟩)⟩,
     ⟨43200, .fixed 0, none⟩]),
   ("Asia/Karachi",
    [⟨16092, .fixed 0, some (1907, ⟨1, .on 1, .wall, 0⟩)⟩,
     ⟨19800, .fixed 0, some (1942, ⟨9, .on 1, .wall, 0⟩)⟩,
     ⟨19800, .fixed 3600, some (1945, ⟨10, .on 15, .wall, 0⟩)⟩,
     ⟨19800, .fixed 0, some (1951, ⟨9, .on 30, .wall, 0⟩)⟩,
     ⟨18000, .fixed 0, some (1971, ⟨3, .on 26, .wall, 0⟩)⟩,
     ⟨18000, .byRules pakistan, none⟩]),
   ("Asia/Kathmandu",
    [⟨20476, .fixed 0, some (1920, ⟨1, .on 1, .wall, 0⟩)⟩,
     ⟨19800, .fixed 0, some (1986, ⟨1, .on 1, .wall, 0⟩)⟩,
     ⟨20700, .fixed 0, none⟩]),
   ("Asia/Khandyga",
    [⟨32533, .fixed 0, some (1919, ⟨12, .on 15, .wall, 0⟩)⟩,
     ⟨28800, .fixed 0, some (1930, ⟨6, .on 21, .wall, 0⟩)⟩,
     ⟨32400, .byRules russia, some (1991, ⟨3, .on 31, .standard, 7200⟩)⟩,
     ⟨28800, .byRules russia, some (1992, ⟨1, .on 19, .standard, 7200⟩)⟩,
     ⟨32400, .byRules russia, some (2004, ⟨1, .on 1, .wall, 0⟩)⟩,
     ⟨36000, .byRules russia, some (2011, ⟨3, .on 27, .standard, 7200⟩)⟩,
     ⟨39600, .fixed 0, some (2011, ⟨9, .on 13, .standard, 0⟩)⟩,
     ⟨36000, .fixed 0, some (2014, ⟨10, .on 26, .standard, 7200⟩)⟩,
     ⟨32400, .fixed 0, none⟩]),
   ("Asia/Kolkata",
    [⟨21208, .fixed 0, some (1854, ⟨6, .on 28, .wall, 0⟩)⟩,
     ⟨21200, .fixed 0, some (1870, ⟨1, .on 1, .wall, 0⟩)⟩,
     ⟨19270, .fixed 0, some (1906, ⟨1, .on 1, .wall, 0⟩)⟩,
     ⟨19800, .fixed 0, some (1941, ⟨10, .on 1, .wall, 0⟩)⟩,
     ⟨19800, .fixed 3600, some (1942, ⟨5, .on 15, .wall, 0⟩)⟩,
     ⟨19800, .fixed 0, some (1942, ⟨9, .on 1, .wall, 0⟩)⟩,
     ⟨19800, .fixed 3600, some (1945, ⟨10, .on 15, .wall, 0⟩)⟩,
     ⟨19800, .fixed 0, none⟩]),
   ("Asia/Krasnoyarsk",
    [⟨22286, .fixed 0, some (1920, ⟨1, .on 6, .wall, 0⟩)⟩,
     ⟨21600, .fixed 0, some (1930, ⟨6, .on 21, .wall, 0⟩)⟩,
     ⟨25200, .byRules russia, some (1991, ⟨3, .on 31, .standard, 7200⟩)⟩,
     ⟨21600, .byRules russia, some (1992, ⟨1, .on 19, .standard, 7200⟩)⟩,
     ⟨25200, .byRules russia, some (2011, ⟨3, .on 27, .standard, 7200⟩)⟩,
     ⟨28800, .fixed 0, some (2014, ⟨10, .on 26, .standard, 7200⟩)⟩,
     ⟨25200, .fixed 0, none⟩]),
   ("Asia/Kuching",
    [⟨26480, .fixed 0, some (1926, ⟨3, .on 1, .wall, 0⟩)⟩,
     ⟨27000, .fixed 0, some (1933, ⟨1, .on 1, .wall, 0⟩)⟩,
     ⟨28800, .byRules northBorneo, some (1942, ⟨2, .on 16, .wall, 0⟩)⟩,
     ⟨32400, .fixed 0, some (1945, ⟨9, .on 12, .wall, 0⟩)⟩,
     ⟨28800, .fixed 0, none⟩]),
   ("Asia/Macau",
    [⟨27250, .fixed 0, some (1904, ⟨10, .on 30, .wall, 0⟩)⟩,
     ⟨28800, .fixed 0, some (1941, ⟨12, .on 21, .wall, 82800⟩)⟩,
     ⟨32400, .byRules macau, some (1945, ⟨9, .on 30, .wall, 86400⟩)⟩,
     ⟨28800, .byRules macau, none⟩]),
   ("Asia/Magadan",
    [⟨36192, .fixed 0, some (1924, ⟨5, .on 2, .wall, 0⟩)⟩,
     ⟨36000, .fixed 0, some (1930, ⟨6, .on 21, .wall, 0⟩)⟩,
     ⟨39600, .byRules russia, some (1991, ⟨3, .on 31, .standard, 7200⟩)⟩,
     ⟨36000, .byRules russia, some (1992, ⟨1, .on 19, .standard, 7200⟩)⟩,
     ⟨39600, .byRules russia, some (2011, ⟨3, .on 27, .standard, 7200⟩)⟩,
     ⟨43200, .fixed 0, some (2014, ⟨10, .on 26, .standard, 7200⟩)⟩,
     ⟨36000, .fixed 0, some (2016, ⟨4, .on 24, .standard, 7200⟩)⟩,
     ⟨39600, .fixed 0, none⟩])]

def asiaZones2 : List (String × List Era) :=
  [("Asia/Makassar",
    [⟨28656, .fixed 0, some (1920, ⟨1, .on 1, .wall, 0⟩)⟩,
     ⟨28656, .fixed 0, some (1932, ⟨11, .on 1, .wall, 0⟩)⟩,
     ⟨28800, .fixed 0, some (1942, ⟨2, .on 9, .wall, 0⟩)⟩,
     ⟨32400, .fixed 0, some (1945, ⟨9, .on 23, .wall, 0⟩)⟩,
     ⟨28800, .fixed 0, none⟩]),
   ("Asia/Manila",
    [⟨-57368, .fixed 0, some (1844, ⟨12, .on 31, .wall, 0⟩)⟩,
     ⟨29032, .fixed 0, some (1899, ⟨9, .on 6, .universal, 14400⟩)⟩,
     ⟨28800, .byRules philippines, some (1942, ⟨2, .on 11, .wall, 86400⟩)⟩,
     ⟨32400, .fixed 0, some (1945, ⟨3, .on 4, .wall, 0⟩)⟩,
     ⟨28800, .byRules philippines, none⟩]),
   ("Asia/Nicosia",
    [⟨8008, .fixed 0, some (1921, ⟨11, .on 14, .wall, 0⟩)⟩,
     ⟨7200, .byRules cyprus, some (1998, ⟨9, .on 1, .wall, 0⟩)⟩,
     ⟨7200, .byRules europeanUnion, none⟩]),
   ("Asia/Novokuznetsk",
    [⟨20928, .fixed 0, some (1924, ⟨5, .on 1, .wall, 0⟩)⟩,
     ⟨21600, .fixed 0, some (1930, ⟨6, .on 21, .wall, 0⟩)⟩,
     ⟨25200, .byRules russia, some (1991, ⟨3, .on 31, .standard, 7200⟩)⟩,
     ⟨21600, .byRules russia, some (1992, ⟨1, .on 19, .standard, 7200⟩)⟩,
     ⟨25200, .byRules russia, some (2010, ⟨3, .on 28, .standard, 7200⟩)⟩,
     ⟨21600, .byRules russia, some (2011, ⟨3, .on 27, .standard, 7200⟩)⟩,
     ⟨25200, .fixed 0, none⟩]),
   ("Asia/Novosibirsk",
    [⟨19900, .fixed 0, some (1919, ⟨12, .on 14, .wall, 21600⟩)⟩,
     ⟨21600, .fixed 0, some (1930, ⟨6, .on 21, .wall, 0⟩)⟩,
     ⟨25200, .byRules russia, some (1991, ⟨3, .on 31, .standard, 7200⟩)⟩,
     ⟨21600, .byRules russia, some (1992, ⟨1, .on 19, .standard, 7200⟩)⟩,
     ⟨25200, .byRules russia, some (1993, ⟨5, .on 23, .wall, 0⟩)⟩,
     ⟨21600, .byRules russia, some (2011, ⟨3, .on 27, .standard, 7200⟩)⟩,
     ⟨25200, .fixed 0, some (2014, ⟨10, .on 26, .standard, 7200⟩)⟩,
     ⟨21600, .fixed 0, some (2016, ⟨7, .on 24, .standard, 7200⟩)⟩,
     ⟨25200, .fixed 0, none⟩]),
   ("Asia/Omsk",
    [⟨17610, .fixed 0, some (1919, ⟨11, .on 14, .wall, 0⟩)⟩,
     ⟨18000, .fixed 0, some (1930, ⟨6, .on 21, .wall, 0⟩)⟩,
     ⟨21600, .byRules russia, some (1991, ⟨3, .on 31, .standard, 7200⟩)⟩,
     ⟨18000, .byRules russia, some (1992, ⟨1, .on 19, .standard, 7200⟩)⟩,
     ⟨21600, .byRules russia, some (2011, ⟨3, .on 27, .standard, 7200⟩)⟩,
     ⟨25200, .fixed 0, some (2014, ⟨10, .on 26, .standard, 7200⟩)⟩,
     ⟨21600, .fixed 0, none⟩]),
   ("Asia/Oral",
    [⟨12324, .fixed 0, some (1924, ⟨5, .on 2, .wall, 0⟩)⟩,
     ⟨10800, .fixed 0, some (1930, ⟨6, .on 21, .wall, 0⟩)⟩,
     ⟨18000, .fixed 0, some (1981, ⟨4, .on 1, .wall, 0⟩)⟩,
     ⟨18000, .fixed 3600, some (1981, ⟨10, .on 1, .wall, 0⟩)⟩,
     ⟨21600, .fixed 0, some (1982, ⟨4, .on 1, .wall, 0⟩)⟩,
     ⟨18000, .byRules russia, some (1989, ⟨3, .on 26, .standard, 7200⟩)⟩,
     ⟨14400, .byRules russia, some (1992, ⟨1, .on 19, .standard, 7200⟩)⟩,
     ⟨18000, .byRules russia, some (1992, ⟨3, .on 29, .standard, 7200⟩)⟩,
     ⟨14400, .byRules russia, some (2004, ⟨10, .on 31, .standard, 7200⟩)⟩,
     ⟨18000, .fixed 0, none⟩]),
   ("Asia/Pontianak",
    [⟨26240, .fixed 0, some (1908, ⟨5, .on 1, .wall, 0⟩)⟩,
     ⟨26240, .fixed 0, some (1932, ⟨11, .on 1, .wall, 0⟩)⟩,
     ⟨27000, .fixed 0, some (1942, ⟨1, .on 29, .wall, 0⟩)⟩,
     ⟨32400, .fixed 0, some (1945, ⟨9, .on 23, .wall, 0⟩)⟩,
     ⟨27000, .fixed 0, some (1948, ⟨5, .on 1, .wall, 0⟩)⟩,
     ⟨28800, .fixed 0, some (1950, ⟨5, .on 1, .wall, 0⟩)⟩,
     ⟨27000, .fixed 0, some (1964, ⟨1, .on 1, .wall, 0⟩)⟩,
     ⟨28800, .fixed 0, some (1988, ⟨1, .on 1, .wall, 0⟩)⟩,
     ⟨25200, .fixed 0, none⟩]),
   ("Asia/Pyongyang",
    [⟨30180, .fixed 0, some (1908, ⟨4, .on 1, .wall, 0⟩)⟩,
     ⟨30600, .fixed 0, some (1912, ⟨1, .on 1, .wall, 0⟩)⟩,
     ⟨32400, .fixed 0, some (1945, ⟨8, .on 24, .wall, 0⟩)⟩,
     ⟨32400, .fixed 0, some (2015, ⟨8, .on 15, .wall, 0⟩)⟩,
     ⟨30600, .fixed 0, some (2018, ⟨5, .on 4, .wall, 84600⟩)⟩,
     ⟨32400, .fixed 0, none⟩]),
   ("Asia/Qatar",
    [⟨12368, .fixed 0, some (1920, ⟨1, .on 1, .wall, 0⟩)⟩,
     ⟨14400, .fixed 0, some (1972, ⟨6, .on 1, .wall, 0⟩)⟩,
     ⟨10800, .fixed 0, none⟩]),
   ("Asia/Qostanay",
    [⟨15268, .fixed 0, some (1924, ⟨5, .on 2, .wall, 0⟩)⟩,
     ⟨14400, .fixed 0, some (1930, ⟨6, .on 21, .wall, 0⟩)⟩,
     ⟨18000, .fixed 0, some (1981, ⟨4, .on 1, .wall, 0⟩)⟩,
     ⟨18000, .fixed 3600, some (1981, ⟨10, .on 1, .wall, 0⟩)⟩,
     ⟨21600, .fixed 0, some (1982, ⟨4, .on 1, .wall, 0⟩)⟩,
     ⟨18000, .byRules russia, some (1991, ⟨3, .on 31, .standard, 7200⟩)⟩,
     ⟨14400, .byRules russia, some (1992, ⟨1, .on 19, .standard, 7200⟩)⟩,
     ⟨18000, .byRules russia, some (2004, ⟨10, .on 31, .standard, 7200⟩)⟩,
     ⟨21600, .fixed 0, some (2024, ⟨3, .on 1, .wall, 0⟩)⟩,
     ⟨18000, .fixed 0, none⟩]),
   ("Asia/Qyzylorda",
    [⟨15712, .fixed 0, some (1924, ⟨5, .on 2, .wall, 0⟩)⟩,
     ⟨14400, .fixed 0, some (1930, ⟨6, .on 21, .wall, 0⟩)⟩,
     ⟨18000, .fixed 0, some (1981, ⟨4, .on 1, .wall, 0⟩)⟩,
     ⟨18000, .fixed 3600, some (1981, ⟨10, .on 1, .wall, 0⟩)⟩,
     ⟨21600, .fixed 0, some (1982, ⟨4, .on 1, .wall, 0⟩)⟩,
     ⟨18000, .byRules russia, some (1991, ⟨3, .on 31, .standard, 7200⟩)⟩,
     ⟨14400, .byRules russia, some (1991, ⟨9, .on 29, .standard, 7200⟩)⟩,
     ⟨18000, .byRules russia, some (1992, ⟨1, .on 19, .standard, 7200⟩)⟩,
     ⟨21600, .byRules russia, some (1992, ⟨3, .on 29, .standard, 7200⟩)⟩,
     ⟨18000, .byRules russia, some (2004, ⟨10, .on 31, .standard, 7200⟩)⟩,
     ⟨21600, .fixed 0, some (2018, ⟨12, .on 21, .wall, 0⟩)⟩,
     ⟨18000, .fixed 0, none⟩]),
   ("Asia/Riyadh",
    [⟨11212, .fixed 0, some (1947, ⟨3, .on 14, .wall, 0⟩)⟩,
     ⟨10800, .fixed 0, none⟩]),
   ("Asia/Sakhalin",
    [⟨34248, .fixed 0, some (1905, ⟨8, .on 23, .wall, 0⟩)⟩,
     ⟨32400, .fixed 0, some (1945, ⟨8, .on 25, .wall, 0⟩)⟩,
     ⟨39600, .byRules russia, some (1991, ⟨3, .on 31, .standard, 7200⟩)⟩,
     ⟨36000, .byRules russia, some (1992, ⟨1, .on 19, .standard, 7200⟩)⟩,
     ⟨39600, .byRules russia, some (1997, ⟨3, .last .sun, .standard, 7200⟩)⟩,
     ⟨36000, .byRules russia, some (2011, ⟨3, .on 27, .standard, 7200⟩)⟩,
     ⟨39600, .fixed 0, some (2014, ⟨10, .on 26, .standard, 7200⟩)⟩,
     ⟨36000, .fixed 0, some (2016, ⟨3, .on 27, .standard, 7200⟩)⟩,
     ⟨39600, .fixed 0, none⟩]),
   ("Asia/Samarkand",
    [⟨16073, .fixed 0, some (1924, ⟨5, .on 2, .wall, 0⟩)⟩,
     ⟨14400, .fixed 0, some (1930, ⟨6, .on 21, .wall, 0⟩)⟩,
     ⟨18000, .fixed 0, some (1981, ⟨4, .on 1, .wall, 0⟩)⟩,
     ⟨18000, .fixed 3600, some (1981, ⟨10, .on 1, .wall, 0⟩)⟩,
     ⟨21600, .fixed 0, some (1982, ⟨4, .on 1, .wall, 0⟩)⟩,
     ⟨18000, .byRules russia, some (1992, ⟨1, .on 1, .wall, 0⟩)⟩,
     ⟨18000, .fixed 0, none⟩]),
   ("Asia/Seoul",
    [⟨30472, .fixed 0, some (1908, ⟨4, .on 1, .wall, 0⟩)⟩,
     ⟨30600, .fixed 0, some (1912, ⟨1, .on 1, .wall, 0⟩)⟩,
     ⟨32400, .fixed 0, some (1945, ⟨9, .on 8, .wall, 0⟩)⟩,
     ⟨32400, .byRules southKorea, some (1954, ⟨3, .on 21, .wall, 0⟩)⟩,
     ⟨30600, .byRules southKorea, some (1961, ⟨8, .on 10, .wall, 0⟩)⟩,
     ⟨32400, .byRules southKorea, none⟩]),
   ("Asia/Shanghai",
    [⟨29143, .fixed 0, some (1901, ⟨1, .on 1, .wall, 0⟩)⟩,
     ⟨28800, .byRules shanghai, some (1949, ⟨5, .on 28, .wall, 0⟩)⟩,
     ⟨28800, .byRules china, none⟩]),
   ("Asia/Singapore",
    [⟨24925, .fixed 0, some (1901, ⟨1, .on 1, .wall, 0⟩)⟩,
     ⟨24925, .fixed 0, some (1905, ⟨6, .on 1, .wall, 0⟩)⟩,
     ⟨25200, .fixed 0, some (1933, ⟨1, .on 1, .wall, 0⟩)⟩,
     ⟨25200, .fixed 1200, some (1936, ⟨1, .on 1, .wall, 0⟩)⟩,
     ⟨26400, .fixed 0, some (1941, ⟨9, .on 1, .wall, 0⟩)⟩,
     ⟨27000, .fixed 0, some (1942, ⟨2, .on 16, .wall, 0⟩)⟩,
     ⟨32400, .fixed 0, some (1945, ⟨9, .on 12, .wall, 0⟩)⟩,
     ⟨27000, .fixed 0, some (1981, ⟨12, .on 31, .universal, 57600⟩)⟩,
     ⟨28800, .fixed 0, none⟩]),
   ("Asia/Srednekolymsk",
    [⟨36892, .fixed 0, some (1924, ⟨5, .on 2, .wall, 0⟩)⟩,
     ⟨36000, .fixed 0, some (1930, ⟨6, .on 21, .wall, 0⟩)⟩,
     ⟨39600, .byRules russia, some (1991, ⟨3, .on 31, .standard, 7200⟩)⟩,
     ⟨36000, .byRules russia, some (1992, ⟨1, .on 19, .standard, 7200⟩)⟩,
     ⟨39600, .byRules russia, some (2011, ⟨3, .on 27, .standard, 7200⟩)⟩,
     ⟨43200, .fixed 0, some (2014, ⟨10, .on 26, .standard, 7200⟩)⟩,
     ⟨39600, .fixed 0, none⟩]),
   ("Asia/Taipei",
    [⟨29160, .fixed 0, some (1896, ⟨1, .on 1, .wall, 0⟩)⟩,
     ⟨28800, .fixed 0, some (1937, ⟨10, .on 1, .wall, 0⟩)⟩,
     ⟨32400, .fixed 0, some (1945, ⟨9, .on 21, .wall, 3600⟩)⟩,
     ⟨28800, .byRules taiwan, none⟩]),
   ("Asia/Tashkent",
    [⟨16631, .fixed 0, some (1924, ⟨5, .on 2, .wall, 0⟩)⟩,
     ⟨18000, .fixed 0, some (1930, ⟨6, .on 21, .wall, 0⟩)⟩,
     ⟨21600, .byRules russia, some (1991, ⟨3, .on 31, .wall, 7200⟩)⟩,
     ⟨18000, .byRules russia, some (1992, ⟨1, .on 1, .wall, 0⟩)⟩,
     ⟨18000, .fixed 0, none⟩]),
   ("Asia/Tbilisi",
    [⟨10751, .fixed 0, some (1880, ⟨1, .on 1, .wall, 0⟩)⟩,
     ⟨10751, .fixed 0, some (1924, ⟨5, .on 2, .wall, 0⟩)⟩,
     ⟨10800, .fixed 0, some (1957, ⟨3, .on 1, .wall, 0⟩)⟩,
     ⟨14400, .byRules russia, some (1991, ⟨3, .on 31, .standard, 7200⟩)⟩,
     ⟨10800, .byRules russia, some (1992, ⟨1, .on 1, .wall, 0⟩)⟩,
     ⟨10800, .byRules easternEurope, some (1994, ⟨9, .last .sun, .wall, 0⟩)⟩,
     ⟨14400, .byRules easternEurope, some (1996, ⟨10, .last .sun, .wall, 0⟩)⟩,
     ⟨14400, .fixed 3600, some (1997, ⟨3, .last .sun, .wall, 0⟩)⟩,
     ⟨14400, .byRules easternEurope, some (2004, ⟨6, .on 27, .wall, 0⟩)⟩,
     ⟨10800, .byRules russia, some (2005, ⟨3, .last .sun, .wall, 7200⟩)⟩,
     ⟨14400, .fixed 0, none⟩]),
   ("Asia/Tehran",
    [⟨12344, .fixed 0, some (1916, ⟨1, .on 1, .wall, 0⟩)⟩,
     ⟨12344, .fixed 0, some (1935, ⟨6, .on 13, .wall, 0⟩)⟩,
     ⟨12600, .byRules iran, some (1977, ⟨10, .on 20, .wall, 86400⟩)⟩,
     ⟨14400, .byRules iran, some (1978, ⟨11, .on 10, .wall, 86400⟩)⟩,
     ⟨12600, .byRules iran, none⟩]),
   ("Asia/Thimphu",
    [⟨21516, .fixed 0, some (1947, ⟨8, .on 15, .wall, 0⟩)⟩,
     ⟨19800, .fixed 0, some (1987, ⟨10, .on 1, .wall, 0⟩)⟩,
     ⟨21600, .fixed 0, none⟩]),
   ("Asia/Tokyo",
    [⟨33539, .fixed 0, some (1887, ⟨12, .on 31, .universal, 54000⟩)⟩,
     ⟨32400, .byRules japan, none⟩]),
   ("Asia/Tomsk",
    [⟨20391, .fixed 0, some (1919, ⟨12, .on 22, .wall, 0⟩)⟩,
     ⟨21600, .fixed 0, some (1930, ⟨6, .on 21, .wall, 0⟩)⟩,
     ⟨25200, .byRules russia, some (1991, ⟨3, .on 31, .standard, 7200⟩)⟩,
     ⟨21600, .byRules russia, some (1992, ⟨1, .on 19, .standard, 7200⟩)⟩,
     ⟨25200, .byRules russia, some (2002, ⟨5, .on 1, .wall, 10800⟩)⟩,
     ⟨21600, .byRules russia, some (2011, ⟨3, .on 27, .standard, 7200⟩)⟩,
     ⟨25200, .fixed 0, some (2014, ⟨10, .on 26, .standard, 7200⟩)⟩,
     ⟨21600, .fixed 0, some (2016, ⟨5, .on 29, .standard, 7200⟩)⟩,
     ⟨25200, .fixed 0, none⟩]),
   ("Asia/Ulaanbaatar",
    [⟨25652, .fixed 0, some (1905, ⟨8, .on 1, .wall, 0⟩)⟩,
     ⟨25200, .fixed 0, some (1978, ⟨1, .on 1, .wall, 0⟩)⟩,
     ⟨28800, .byRules mongolia, none⟩]),
   ("Asia/Urumqi",
    [⟨21020, .fixed 0, some (1928, ⟨1, .on 1, .wall, 0⟩)⟩,
     ⟨21600, .fixed 0, none⟩]),
   ("Asia/Ust-Nera",
    [⟨34374, .fixed 0, some (1919, ⟨12, .on 15, .wall, 0⟩)⟩,
     ⟨28800, .fixed 0, some (1930, ⟨6, .on 21, .wall, 0⟩)⟩,
     ⟨32400, .byRules russia, some (1981, ⟨4, .on 1, .wall, 0⟩)⟩,
     ⟨39600, .byRules russia, some (1991, ⟨3, .on 31, .standard, 7200⟩)⟩,
     ⟨36000, .byRules russia, some (1992, ⟨1, .on 19, .standard, 7200⟩)⟩,
     ⟨39600, .byRules russia, some (2011, ⟨3, .on 27, .standard, 7200⟩)⟩,
     ⟨43200, .fixed 0, some (2011, ⟨9, .on 13, .standard, 0⟩)⟩,
     ⟨39600, .fixed 0, some (2014, ⟨10, .on 26, .standard, 7200⟩)⟩,
     ⟨36000, .fixed 0, none⟩]),
   ("Asia/Vladivostok",
    [⟨31651, .fixed 0, some (1922, ⟨11, .on 15, .wall, 0⟩)⟩,
     ⟨32400, .fixed 0, some (1930, ⟨6, .on 21, .wall, 0⟩)⟩,
     ⟨36000, .byRules russia, some (1991, ⟨3, .on 31, .standard, 7200⟩)⟩,
     ⟨32400, .byRules russia, some (1992, ⟨1, .on 19, .standard, 7200⟩)⟩,
     ⟨36000, .byRules russia, some (2011, ⟨3, .on 27, .standard, 7200⟩)⟩,
     ⟨39600, .fixed 0, some (2014, ⟨10, .on 26, .standard, 7200⟩)⟩,
     ⟨36000, .fixed 0, none⟩]),
   ("Asia/Yakutsk",
    [⟨31138, .fixed 0, some (1919, ⟨12, .on 15, .wall, 0⟩)⟩,
     ⟨28800, .fixed 0, some (1930, ⟨6, .on 21, .wall, 0⟩)⟩,
     ⟨32400, .byRules russia, some (1991, ⟨3, .on 31, .standard, 7200⟩)⟩,
     ⟨28800, .byRules russia, some (1992, ⟨1, .on 19, .standard, 7200⟩)⟩,
     ⟨32400, .byRules russia, some (2011, ⟨3, .on 27, .standard, 7200⟩)⟩,
     ⟨36000, .fixed 0, some (2014, ⟨10, .on 26, .standard, 7200⟩)⟩,
     ⟨32400, .fixed 0, none⟩]),
   ("Asia/Yangon",
    [⟨23087, .fixed 0, some (1880, ⟨1, .on 1, .wall, 0⟩)⟩,
     ⟨23087, .fixed 0, some (1920, ⟨1, .on 1, .wall, 0⟩)⟩,
     ⟨23400, .fixed 0, some (1942, ⟨5, .on 1, .wall, 0⟩)⟩,
     ⟨32400, .fixed 0, some (1945, ⟨5, .on 3, .wall, 0⟩)⟩,
     ⟨23400, .fixed 0, none⟩]),
   ("Asia/Yekaterinburg",
    [⟨14553, .fixed 0, some (1916, ⟨7, .on 3, .wall, 0⟩)⟩,
     ⟨13505, .fixed 0, some (1919, ⟨7, .on 15, .wall, 14400⟩)⟩,
     ⟨14400, .fixed 0, some (1930, ⟨6, .on 21, .wall, 0⟩)⟩,
     ⟨18000, .byRules russia, some (1991, ⟨3, .on 31, .standard, 7200⟩)⟩,
     ⟨14400, .byRules russia, some (1992, ⟨1, .on 19, .standard, 7200⟩)⟩,
     ⟨18000, .byRules russia, some (2011, ⟨3, .on 27, .standard, 7200⟩)⟩,
     ⟨21600, .fixed 0, some (2014, ⟨10, .on 26, .standard, 7200⟩)⟩,
     ⟨18000, .fixed 0, none⟩]),
   ("Asia/Yerevan",
    [⟨10680, .fixed 0, some (1924, ⟨5, .on 2, .wall, 0⟩)⟩,
     ⟨10800, .fixed 0, some (1957, ⟨3, .on 1, .wall, 0⟩)⟩,
     ⟨14400, .byRules russia, some (1991, ⟨3, .on 31, .standard, 7200⟩)⟩,
     ⟨10800, .byRules russia, some (1995, ⟨9, .on 24, .standard, 7200⟩)⟩,
     ⟨14400, .fixed 0, some (1997, ⟨1, .on 1, .wall, 0⟩)⟩,
     ⟨14400, .byRules russia, some (2011, ⟨1, .on 1, .wall, 0⟩)⟩,
     ⟨14400, .byRules armenia, none⟩])]

def asiaZones : List (String × List Era) :=
  asiaZones1 ++ asiaZones2

end Punctual.ZoneTable
