import Punctual.Zone.Table.Shared

/-! The histories of the time zones of the oceans, Australia and Antarctica, and the zones at fixed distances from UTC. -/
namespace Punctual.ZoneTable

def mauritius : List SavingRule :=
  [⟨1982, 1982, ⟨10, .on 10, .wall, 0⟩, 3600⟩,
   ⟨1983, 1983, ⟨3, .on 21, .wall, 0⟩, 0⟩,
   ⟨2008, 2008, ⟨10, .last .sun, .wall, 7200⟩, 3600⟩,
   ⟨2009, 2009, ⟨3, .last .sun, .wall, 7200⟩, 0⟩]

def troll : List SavingRule :=
  [⟨2005, 2099, ⟨3, .last .sun, .universal, 3600⟩, 7200⟩,
   ⟨2004, 2099, ⟨10, .last .sun, .universal, 3600⟩, 0⟩]

def australia : List SavingRule :=
  [⟨1917, 1917, ⟨1, .on 1, .standard, 7200⟩, 3600⟩,
   ⟨1917, 1917, ⟨3, .last .sun, .standard, 7200⟩, 0⟩,
   ⟨1942, 1942, ⟨1, .on 1, .standard, 7200⟩, 3600⟩,
   ⟨1942, 1942, ⟨3, .last .sun, .standard, 7200⟩, 0⟩,
   ⟨1942, 1942, ⟨9, .on 27, .standard, 7200⟩, 3600⟩,
   ⟨1943, 1944, ⟨3, .last .sun, .standard, 7200⟩, 0⟩,
   ⟨1943, 1943, ⟨10, .on 3, .standard, 7200⟩, 3600⟩]

def westernAustralia : List SavingRule :=
  [⟨1974, 1974, ⟨10, .last .sun, .standard, 7200⟩, 3600⟩,
   ⟨1975, 1975, ⟨3, .onOrAfter .sun 1, .standard, 7200⟩, 0⟩,
   ⟨1983, 1983, ⟨10, .last .sun, .standard, 7200⟩, 3600⟩,
   ⟨1984, 1984, ⟨3, .onOrAfter .sun 1, .standard, 7200⟩, 0⟩,
   ⟨1991, 1991, ⟨11, .on 17, .standard, 7200⟩, 3600⟩,
   ⟨1992, 1992, ⟨3, .onOrAfter .sun 1, .standard, 7200⟩, 0⟩,
   ⟨2006, 2006, ⟨12, .on 3, .standard, 7200⟩, 3600⟩,
   ⟨2007, 2009, ⟨3, .last .sun, .standard, 7200⟩, 0⟩,
   ⟨2007, 2008, ⟨10, .last .sun, .standard, 7200⟩, 3600⟩]

def queensland : List SavingRule :=
  [⟨1971, 1971, ⟨10, .last .sun, .standard, 7200⟩, 3600⟩,
   ⟨1972, 1972, ⟨2, .last .sun, .standard, 7200⟩, 0⟩,
   ⟨1989, 1991, ⟨10, .last .sun, .standard, 7200⟩, 3600⟩,
   ⟨1990, 1992, ⟨3, .onOrAfter .sun 1, .standard, 7200⟩, 0⟩]

def holidayIslands : List SavingRule :=
  [⟨1992, 1993, ⟨10, .last .sun, .standard, 7200⟩, 3600⟩,
   ⟨1993, 1994, ⟨3, .onOrAfter .sun 1, .standard, 7200⟩, 0⟩]

def southAustralia : List SavingRule :=
  [⟨1971, 1985, ⟨10, .last .sun, .standard, 7200⟩, 3600⟩,
   ⟨1986, 1986, ⟨10, .on 19, .standard, 7200⟩, 3600⟩,
   ⟨1987, 2007, ⟨10, .last .sun, .standard, 7200⟩, 3600⟩,
   ⟨1972, 1972, ⟨2, .on 27, .standard, 7200⟩, 0⟩,
   ⟨1973, 1985, ⟨3, .onOrAfter .sun 1, .standard, 7200⟩, 0⟩,
   ⟨1986, 1990, ⟨3, .onOrAfter .sun 15, .standard, 7200⟩, 0⟩,
   ⟨1991, 1991, ⟨3, .on 3, .standard, 7200⟩, 0⟩,
   ⟨1992, 1992, ⟨3, .on 22, .standard, 7200⟩, 0⟩,
   ⟨1993, 1993, ⟨3, .on 7, .standard, 7200⟩, 0⟩,
   ⟨1994, 1994, ⟨3, .on 20, .standard, 7200⟩, 0⟩,
   ⟨1995, 2005, ⟨3, .last .sun, .standard, 7200⟩, 0⟩,
   ⟨2006, 2006, ⟨4, .on 2, .standard, 7200⟩, 0⟩,
   ⟨2007, 2007, ⟨3, .last .sun, .standard, 7200⟩, 0⟩,
   ⟨2008, 2099, ⟨4, .onOrAfter .sun 1, .standard, 7200⟩, 0⟩,
   ⟨2008, 2099, ⟨10, .onOrAfter .sun 1, .standard, 7200⟩, 3600⟩]

def tasmania : List SavingRule :=
  [⟨1916, 1916, ⟨10, .onOrAfter .sun 1, .standard, 7200⟩, 3600⟩,
   ⟨1917, 1917, ⟨3, .last .sun, .standard, 7200⟩, 0⟩,
   ⟨1917, 1918, ⟨10, .onOrAfter .sun 22, .standard, 7200⟩, 3600⟩,
   ⟨1918, 1919, ⟨3, .onOrAfter .sun 1, .standard, 7200⟩, 0⟩,
   ⟨1967, 1967, ⟨10, .onOrAfter .sun 1, .standard, 7200⟩, 3600⟩,
   ⟨1968, 1968, ⟨3, .onOrAfter .sun 29, .standard, 7200⟩, 0⟩,
   ⟨1968, 1985, ⟨10, .last .sun, .standard, 7200⟩, 3600⟩,
   ⟨1969, 1971, ⟨3, .onOrAfter .sun 8, .standard, 7200⟩, 0⟩,
   ⟨1972, 1972, ⟨2, .last .sun, .standard, 7200⟩, 0⟩,
   ⟨1973, 1981, ⟨3, .onOrAfter .sun 1, .standard, 7200⟩, 0⟩,
   ⟨1982, 1983, ⟨3, .last .sun, .standard, 7200⟩, 0⟩,
   ⟨1984, 1986, ⟨3, .onOrAfter .sun 1, .standard, 7200⟩, 0⟩,
   ⟨1986, 1986, ⟨10, .onOrAfter .sun 15, .standard, 7200⟩, 3600⟩,
   ⟨1987, 1990, ⟨3, .onOrAfter .sun 15, .standard, 7200⟩, 0⟩,
   ⟨1987, 1987, ⟨10, .onOrAfter .sun 22, .standard, 7200⟩, 3600⟩,
   ⟨1988, 1990, ⟨10, .last .sun, .standard, 7200⟩, 3600⟩,
   ⟨1991, 1999, ⟨10, .onOrAfter .sun 1, .standard, 7200⟩, 3600⟩,
   ⟨1991, 2005, ⟨3, .last .sun, .standard, 7200⟩, 0⟩,
   ⟨2000, 2000, ⟨8, .last .sun, .standard, 7200⟩, 3600⟩,
   ⟨2001, 2099, ⟨10, .onOrAfter .sun 1, .standard, 7200⟩, 3600⟩,
   ⟨2006, 2006, ⟨4, .onOrAfter .sun 1, .standard, 7200⟩, 0⟩,
   ⟨2007, 2007, ⟨3, .last .sun, .standard, 7200⟩, 0⟩,
   ⟨2008, 2099, ⟨4, .onOrAfter .sun 1, .standard, 7200⟩, 0⟩]

def victoria : List SavingRule :=
  [⟨1971, 1985, ⟨10, .last .sun, .standard, 7200⟩, 3600⟩,
   ⟨1972, 1972, ⟨2, .last .sun, .standard, 7200⟩, 0⟩,
   ⟨1973, 1985, ⟨3, .onOrAfter .sun 1, .standard, 7200⟩, 0⟩,
   ⟨1986, 1990, ⟨3, .onOrAfter .sun 15, .standard, 7200⟩, 0⟩,
   ⟨1986, 1987, ⟨10, .onOrAfter .sun 15, .standard, 7200⟩, 3600⟩,
   ⟨1988, 1999, ⟨10, .last .sun, .standard, 7200⟩, 3600⟩,
   ⟨1991, 1994, ⟨3, .onOrAfter .sun 1, .standard, 7200⟩, 0⟩,
   ⟨1995, 2005, ⟨3, .last .sun, .standard, 7200⟩, 0⟩,
   ⟨2000, 2000, ⟨8, .last .sun, .standard, 7200⟩, 3600⟩,
   ⟨2001, 2007, ⟨10, .last .sun, .standard, 7200⟩, 3600⟩,
   ⟨2006, 2006, ⟨4, .onOrAfter .sun 1, .standard, 7200⟩, 0⟩,
   ⟨2007, 2007, ⟨3, .last .sun, .standard, 7200⟩, 0⟩,
   ⟨2008, 2099, ⟨4, .onOrAfter .sun 1, .standard, 7200⟩, 0⟩,
   ⟨2008, 2099, ⟨10, .onOrAfter .sun 1, .standard, 7200⟩, 3600⟩]

def newSouthWales : List SavingRule :=
  [⟨1971, 1985, ⟨10, .last .sun, .standard, 7200⟩, 3600⟩,
   ⟨1972, 1972, ⟨2, .on 27, .standard, 7200⟩, 0⟩,
   ⟨1973, 1981, ⟨3, .onOrAfter .sun 1, .standard, 7200⟩, 0⟩,
   ⟨1982, 1982, ⟨4, .onOrAfter .sun 1, .standard, 7200⟩, 0⟩,
   ⟨1983, 1985, ⟨3, .onOrAfter .sun 1, .standard, 7200⟩, 0⟩,
   ⟨1986, 1989, ⟨3, .onOrAfter .sun 15, .standard, 7200⟩, 0⟩,
   ⟨1986, 1986, ⟨10, .on 19, .standard, 7200⟩, 3600⟩,
   ⟨1987, 1999, ⟨10, .last .sun, .standard, 7200⟩, 3600⟩,
   ⟨1990, 1995, ⟨3, .onOrAfter .sun 1, .standard, 7200⟩, 0⟩,
   ⟨1996, 2005, ⟨3, .last .sun, .standard, 7200⟩, 0⟩,
   ⟨2000, 2000, ⟨8, .last .sun, .standard, 7200⟩, 3600⟩,
   ⟨2001, 2007, ⟨10, .last .sun, .standard, 7200⟩, 3600⟩,
   ⟨2006, 2006, ⟨4, .onOrAfter .sun 1, .standard, 7200⟩, 0⟩,
   ⟨2007, 2007, ⟨3, .last .sun, .standard, 7200⟩, 0⟩,
   ⟨2008, 2099, ⟨4, .onOrAfter .sun 1, .standard, 7200⟩, 0⟩,
   ⟨2008, 2099, ⟨10, .onOrAfter .sun 1, .standard, 7200⟩, 3600⟩]

def lordHowe : List SavingRule :=
  [⟨1981, 1984, ⟨10, .last .sun, .wall, 7200⟩, 3600⟩,
   ⟨1982, 1985, ⟨3, .onOrAfter .sun 1, .wall, 7200⟩, 0⟩,
   ⟨1985, 1985, ⟨10, .last .sun, .wall, 7200⟩, 1800⟩,
   ⟨1986, 1989, ⟨3, .onOrAfter .sun 15, .wall, 7200⟩, 0⟩,
   ⟨1986, 1986, ⟨10, .on 19, .wall, 7200⟩, 1800⟩,
   ⟨1987, 1999, ⟨10, .last .sun, .wall, 7200⟩, 1800⟩,
   ⟨1990, 1995, ⟨3, .onOrAfter .sun 1, .wall, 7200⟩, 0⟩,
   ⟨1996, 2005, ⟨3, .last .sun, .wall, 7200⟩, 0⟩,
   ⟨2000, 2000, ⟨8, .last .sun, .wall, 7200⟩, 1800⟩,
   ⟨2001, 2007, ⟨10, .last .sun, .wall, 7200⟩, 1800⟩,
   ⟨2006, 2006, ⟨4, .onOrAfter .sun 1, .wall, 7200⟩, 0⟩,
   ⟨2007, 2007, ⟨3, .last .sun, .wall, 7200⟩, 0⟩,
   ⟨2008, 2099, ⟨4, .onOrAfter .sun 1, .wall, 7200⟩, 0⟩,
   ⟨2008, 2099, ⟨10, .onOrAfter .sun 1, .wall, 7200⟩, 1800⟩]

def fiji : List SavingRule :=
  [⟨1998, 1999, ⟨11, .onOrAfter .sun 1, .wall, 7200⟩, 3600⟩,
   ⟨1999, 2000, ⟨2, .last .sun, .wall, 10800⟩, 0⟩,
   ⟨2009, 2009, ⟨11, .on 29, .wall, 7200⟩, 3600⟩,
   ⟨2010, 2010, ⟨3, .last .sun, .wall, 10800⟩, 0⟩,
   ⟨2010, 2013, ⟨10, .onOrAfter .sun 21, .wall, 7200⟩, 3600⟩,
   ⟨2011, 2011, ⟨3, .onOrAfter .sun 1, .wall, 10800⟩, 0⟩,
   ⟨2012, 2013, ⟨1, .onOrAfter .sun 18, .wall, 10800⟩, 0⟩,
   ⟨2014, 2014, ⟨1, .onOrAfter .sun 18, .wall, 7200⟩, 0⟩,
   ⟨2014, 2018, ⟨11, .onOrAfter .sun 1, .wall, 7200⟩, 3600⟩,
   ⟨2015, 2021, ⟨1, .onOrAfter .sun 12, .wall, 10800⟩, 0⟩,
   ⟨2019, 2019, ⟨11, .onOrAfter .sun 8, .wall, 7200⟩, 3600⟩,
   ⟨2020, 2020, ⟨12, .on 20, .wall, 7200⟩, 3600⟩]

def guam : List SavingRule :=
  [⟨1959, 1959, ⟨6, .on 27, .wall, 7200⟩, 3600⟩,
   ⟨1961, 1961, ⟨1, .on 29, .wall, 7200⟩, 0⟩,
   ⟨1967, 1967, ⟨9, .on 1, .wall, 7200⟩, 3600⟩,
   ⟨1969, 1969, ⟨1, .on 26, .wall, 60⟩, 0⟩,
   ⟨1969, 1969, ⟨6, .on 22, .wall, 7200⟩, 3600⟩,
   ⟨1969, 1969, ⟨8, .on 31, .wall, 7200⟩, 0⟩,
   ⟨1970, 1971, ⟨4, .last .sun, .wall, 7200⟩, 3600⟩,
   ⟨1970, 1971, ⟨9, .onOrAfter .sun 1, .wall, 7200⟩, 0⟩,
   ⟨1973, 1973, ⟨12, .on 16, .wall, 7200⟩, 3600⟩,
   ⟨1974, 1974, ⟨2, .on 24, .wall, 7200⟩, 0⟩,
   ⟨1976, 1976, ⟨5, .on 26, .wall, 7200⟩, 3600⟩,
   ⟨1976, 1976, ⟨8, .on 22, .wall, 7260⟩, 0⟩,
   ⟨1977, 1977, ⟨4, .on 24, .wall, 7200⟩, 3600⟩,
   ⟨1977, 1977, ⟨8, .on 28, .wall, 7200⟩, 0⟩]

def newCaledonia : List SavingRule :=
  [⟨1977, 1978, ⟨12, .onOrAfter .sun 1, .wall, 0⟩, 3600⟩,
   ⟨1978, 1979, ⟨2, .on 27, .wall, 0⟩, 0⟩,
   ⟨1996, 1996, ⟨12, .on 1, .standard, 7200⟩, 3600⟩,
   ⟨1997, 1997, ⟨3, .on 2, .standard, 7200⟩, 0⟩]

def newZealand : List SavingRule :=
  [⟨1927, 1927, ⟨11, .on 6, .wall, 7200⟩, 3600⟩,
   ⟨1928, 1928, ⟨3, .on 4, .wall, 7200⟩, 0⟩,
   ⟨1928, 1933, ⟨10, .onOrAfter .sun 8, .wall, 7200⟩, 1800⟩,
   ⟨1929, 1933, ⟨3, .onOrAfter .sun 15, .wall, 7200⟩, 0⟩,
   ⟨1934, 1940, ⟨4, .last .sun, .wall, 7200⟩, 0⟩,
   ⟨1934, 1940, ⟨9, .last .sun, .wall, 7200⟩, 1800⟩,
   ⟨1946, 1946, ⟨1, .on 1, .wall, 0⟩, 0⟩,
   ⟨1974, 1974, ⟨11, .onOrAfter .sun 1, .standard, 7200⟩, 3600⟩,
   ⟨1975, 1975, ⟨2, .last .sun, .standard, 7200⟩, 0⟩,
   ⟨1975, 1988, ⟨10, .last .sun, .standard, 7200⟩, 3600⟩,
   ⟨1976, 1989, ⟨3, .onOrAfter .sun 1, .standard, 7200⟩, 0⟩,
   ⟨1989, 1989, ⟨10, .onOrAfter .sun 8, .standard, 7200⟩, 3600⟩,
   ⟨1990, 2006, ⟨10, .onOrAfter .sun 1, .standard, 7200⟩, 3600⟩,
   ⟨1990, 2007, ⟨3, .onOrAfter .sun 15, .standard, 7200⟩, 0⟩,
   ⟨2007, 2099, ⟨9, .last .sun, .standard, 7200⟩, 3600⟩,
   ⟨2008, 2099, ⟨4, .onOrAfter .sun 1, .standard, 7200⟩, 0⟩]

def chatham : List SavingRule :=
  [⟨1974, 1974, ⟨11, .onOrAfter .sun 1, .standard, 9900⟩, 3600⟩,
   ⟨1975, 1975, ⟨2, .last .sun, .standard, 9900⟩, 0⟩,
   ⟨1975, 1988, ⟨10, .last .sun, .standard, 9900⟩, 3600⟩,
   ⟨1976, 1989, ⟨3, .onOrAfter .sun 1, .standard, 9900⟩, 0⟩,
   ⟨1989, 1989, ⟨10, .onOrAfter .sun 8, .standard, 9900⟩, 3600⟩,
   ⟨1990, 2006, ⟨10, .onOrAfter .sun 1, .standard, 9900⟩, 3600⟩,
   ⟨1990, 2007, ⟨3, .onOrAfter .sun 15, .standard, 9900⟩, 0⟩,
   ⟨2007, 2099, ⟨9, .last .sun, .standard, 9900⟩, 3600⟩,
   ⟨2008, 2099, ⟨4, .onOrAfter .sun 1, .standard, 9900⟩, 0⟩]

def cookIslands : List SavingRule :=
  [⟨1978, 1978, ⟨11, .on 12, .wall, 0⟩, 1800⟩,
   ⟨1979, 1991, ⟨3, .onOrAfter .sun 1, .wall, 0⟩, 0⟩,
   ⟨1979, 1990, ⟨10, .last .sun, .wall, 0⟩, 1800⟩]

def samoa : List SavingRule :=
  [⟨2010, 2010, ⟨9, .last .sun, .wall, 0⟩, 3600⟩,
   ⟨2011, 2011, ⟨4, .onOrAfter .sat 1, .wall, 14400⟩, 0⟩,
   ⟨2011, 2011, ⟨9, .last .sat, .wall, 10800⟩, 3600⟩,
   ⟨2012, 2021, ⟨4, .onOrAfter .sun 1, .wall, 14400⟩, 0⟩,
   ⟨2012, 2020, ⟨9, .last .sun, .wall, 10800⟩, 3600⟩]

def tonga : List SavingRule :=
  [⟨1999, 1999, ⟨10, .on 7, .standard, 7200⟩, 3600⟩,
   ⟨2000, 2000, ⟨3, .on 19, .standard, 7200⟩, 0⟩,
   ⟨2000, 2001, ⟨11, .onOrAfter .sun 1, .wall, 7200⟩, 3600⟩,
   ⟨2001, 2002, ⟨1, .last .sun, .wall, 7200⟩, 0⟩,
   ⟨2016, 2016, ⟨11, .onOrAfter .sun 1, .wall, 7200⟩, 3600⟩,
   ⟨2017, 2017, ⟨1, .onOrAfter .sun 15, .wall, 10800⟩, 0⟩]

def vanuatu : List SavingRule :=
  [⟨1973, 1973, ⟨12, .on 22, .universal, 43200⟩, 3600⟩,
   ⟨1974, 1974, ⟨3, .on 30, .universal, 43200⟩, 0⟩,
   ⟨1983, 1991, ⟨9, .onOrAfter .sat 22, .wall, 86400⟩, 3600⟩,
   ⟨1984, 1991, ⟨3, .onOrAfter .sat 22, .wall, 86400⟩, 0⟩,
   ⟨1992, 1993, ⟨1, .onOrAfter .sat 22, .wall, 86400⟩, 0⟩,
   ⟨1992, 1992, ⟨10, .onOrAfter .sat 22, .wall, 86400⟩, 3600⟩]

def bermuda : List SavingRule :=
  [⟨1917, 1917, ⟨4, .on 5, .wall, 86400⟩, 3600⟩,
   ⟨1917, 1917, ⟨9, .on 30, .wall, 86400⟩, 0⟩,
   ⟨1918, 1918, ⟨4, .on 13, .wall, 86400⟩, 3600⟩,
   ⟨1918, 1918, ⟨9, .on 15, .wall, 86400⟩, 0⟩,
   ⟨1942, 1942, ⟨1, .on 11, .wall, 7200⟩, 3600⟩,
   ⟨1942, 1942, ⟨10, .on 18, .wall, 7200⟩, 0⟩,
   ⟨1943, 1943, ⟨3, .on 21, .wall, 7200⟩, 3600⟩,
   ⟨1943, 1943, ⟨10, .on 31, .wall, 7200⟩, 0⟩,
   ⟨1944, 1945, ⟨3, .onOrAfter .sun 8, .wall, 7200⟩, 3600⟩,
   ⟨1944, 1945, ⟨11, .onOrAfter .sun 1, .wall, 7200⟩, 0⟩,
   ⟨1947, 1947, ⟨5, .onOrAfter .sun 15, .wall, 7200⟩, 3600⟩,
   ⟨1947, 1947, ⟨9, .onOrAfter .sun 8, .wall, 7200⟩, 0⟩,
   ⟨1948, 1952, ⟨5, .onOrAfter .sun 22, .wall, 7200⟩, 3600⟩,
   ⟨1948, 1952, ⟨9, .onOrAfter .sun 1, .wall, 7200⟩, 0⟩,
   ⟨1956, 1956, ⟨5, .onOrAfter .sun 22, .wall, 7200⟩, 3600⟩,
   ⟨1956, 1956, ⟨10, .last .sun, .wall, 7200⟩, 0⟩]

def falklands : List SavingRule :=
  [⟨1937, 1938, ⟨9, .last .sun, .wall, 0⟩, 3600⟩,
   ⟨1938, 1942, ⟨3, .onOrAfter .sun 19, .wall, 0⟩, 0⟩,
   ⟨1939, 1939, ⟨10, .on 1, .wall, 0⟩, 3600⟩,
   ⟨1940, 1942, ⟨9, .last .sun, .wall, 0⟩, 3600⟩,
   ⟨1943, 1943, ⟨1, .on 1, .wall, 0⟩, 0⟩,
   ⟨1983, 1983, ⟨9, .last .sun, .wall, 0⟩, 3600⟩,
   ⟨1984, 1985, ⟨4, .last .sun, .wall, 0⟩, 0⟩,
   ⟨1984, 1984, ⟨9, .on 16, .wall, 0⟩, 3600⟩,
   ⟨1985, 2000, ⟨9, .onOrAfter .sun 9, .wall, 0⟩, 3600⟩,
   ⟨1986, 2000, ⟨4, .onOrAfter .sun 16, .wall, 0⟩, 0⟩,
   ⟨2001, 2010, ⟨4, .onOrAfter .sun 15, .wall, 7200⟩, 0⟩,
   ⟨2001, 2010, ⟨9, .onOrAfter .sun 1, .wall, 7200⟩, 3600⟩]

def oceansZones1 : List (String × List Era) :=
  [("Antarctica/Casey",
    [⟨0, .fixed 0, some (1969, ⟨1, .on 1, .wall, 0⟩)⟩,
     ⟨28800, .fixed 0, some (2009, ⟨10, .on 18, .wall, 7200⟩)⟩,
     ⟨39600, .fixed 0, some (2010, ⟨3, .on 5, .wall, 7200⟩)⟩,
     ⟨28800, .fixed 0, some (2011, ⟨10, .on 28, .wall, 7200⟩)⟩,
     ⟨39600, .fixed 0, some (2012, ⟨2, .on 21, .universal, 61200⟩)⟩,
     ⟨28800, .fixed 0, some (2016, ⟨10, .on 22, .wall, 0⟩)⟩,
     ⟨39600, .fixed 0, some (2018, ⟨3, .on 11, .wall, 14400⟩)⟩,
     ⟨28800, .fixed 0, some (2018, ⟨10, .on 7, .wall, 14400⟩)⟩,
     ⟨39600, .fixed 0, some (2019, ⟨3, .on 17, .wall, 10800⟩)⟩,
     ⟨28800, .fixed 0, some (2019, ⟨10, .on 4, .wall, 10800⟩)⟩,
     ⟨39600, .fixed 0, some (2020, ⟨3, .on 8, .wall, 10800⟩)⟩,
     ⟨28800, .fixed 0, some (2020, ⟨10, .on 4, .wall, 60⟩)⟩,
     ⟨39600, .fixed 0, some (2021, ⟨3, .on 14, .wall, 0⟩)⟩,
     ⟨28800, .fixed 0, some (2021, ⟨10, .on 3, .wall, 60⟩)⟩,
     ⟨39600, .fixed 0, some (2022, ⟨3, .on 13, .wall, 0⟩)⟩,
     ⟨28800, .fixed 0, some (2022, ⟨10, .on 2, .wall, 60⟩)⟩,
     ⟨39600, .fixed 0, some (2023, ⟨3, .on 9, .wall, 10800⟩)⟩,
     ⟨28800, .fixed 0, none⟩]),
   ("Antarctica/Davis",
    [⟨0, .fixed 0, some (1957, ⟨1, .on 13, .wall, 0⟩)⟩,
     ⟨25200, .fixed 0, some (1964, ⟨11, .on 1, .wall, 0⟩)⟩,
     ⟨0, .fixed 0, some (1969, ⟨2, .on 1, .wall, 0⟩)⟩,
     ⟨25200, .fixed 0, some (2009, ⟨10, .on 18, .wall, 7200⟩)⟩,
     ⟨18000, .fixed 0, some (2010, ⟨3, .on 10, .universal, 72000⟩)⟩,
     ⟨25200, .fixed 0, some (2011, ⟨10, .on 28, .wall, 7200⟩)⟩,
     ⟨18000, .fixed 0, some (2012, ⟨2, .on 21, .universal, 72000⟩)⟩,
     ⟨25200, .fixed 0, none⟩]),
   ("Antarctica/Macquarie",
    [⟨0, .fixed 0, some (1899, ⟨11, .on 1, .wall, 0⟩)⟩,
     ⟨36000, .fixed 0, some (1916, ⟨10, .on 1, .wall, 7200⟩)⟩,
     ⟨36000, .fixed 3600, some (1917, ⟨2, .on 1, .wall, 0⟩)⟩,
     ⟨36000, .byRules australia, some (1919, ⟨4, .on 1, .standard, 0⟩)⟩,
     ⟨0, .fixed 0, some (1948, ⟨3, .on 25, .wall, 0⟩)⟩,
     ⟨36000, .byRules australia, some (1967, ⟨1, .on 1, .wall, 0⟩)⟩,
     ⟨36000, .byRules tasmania, some (2010, ⟨1, .on 1, .wall, 0⟩)⟩,
     ⟨36000, .fixed 3600, some (2011, ⟨1, .on 1, .wall, 0⟩)⟩,
     ⟨36000, .byRules tasmania, none⟩]),
   ("Antarctica/Mawson",
    [⟨0, .fixed 0, some (1954, ⟨2, .on 13, .wall, 0⟩)⟩,
     ⟨21600, .fixed 0, some (2009, ⟨10, .on 18, .wall, 7200⟩)⟩,
     ⟨18000, .fixed 0, none⟩]),
   ("Antarctica/Palmer",
    [⟨0, .fixed 0, some (1965, ⟨1, .on 1, .wall, 0⟩)⟩,
     ⟨-14400, .byRules argentina, some (1969, ⟨10, .on 5, .wall, 0⟩)⟩,
     ⟨-10800, .byRules argentina, some (1982, ⟨5, .on 1, .wall, 0⟩)⟩,
     ⟨-14400, .byRules chile, some (2016, ⟨12, .on 4, .wall, 0⟩)⟩,
     ⟨-10800, .fixed 0, none⟩]),
   ("Antarctica/Rothera",
    [⟨0, .fixed 0, some (1976, ⟨12, .on 1, .wall, 0⟩)⟩,
     ⟨-10800, .fixed 0, none⟩]),
   ("Antarctica/Troll",
    [⟨0, .fixed 0, some (2005, ⟨2, .on 12, .wall, 0⟩)⟩,
     ⟨0, .byRules troll, none⟩]),
   ("Antarctica/Vostok",
    [⟨0, .fixed 0, some (1957, ⟨12, .on 16, .wall, 0⟩)⟩,
     ⟨25200, .fixed 0, some (1994, ⟨2, .on 1, .wall, 0⟩)⟩,
     ⟨0, .fixed 0, some (1994, ⟨11, .on 1, .wall, 0⟩)⟩,
     ⟨25200, .fixed 0, some (2023, ⟨12, .on 18, .wall, 7200⟩)⟩,
     ⟨18000, .fixed 0, none⟩]),
   ("Atlantic/Azores",
    [⟨-6160, .fixed 0, some (1884, ⟨1, .on 1, .wall, 0⟩)⟩,
     ⟨-6872, .fixed 0, some (1912, ⟨1, .on 1, .universal, 7200⟩)⟩,
     ⟨-7200, .byRules portugal, some (1942, ⟨4, .on 25, .standard, 79200⟩)⟩,
     ⟨-7200, .byRules portugal, some (1942, ⟨8, .on 15, .standard, 79200⟩)⟩,
     ⟨-7200, .byRules portugal, some (1943, ⟨4, .on 17, .standard, 79200⟩)⟩,
     ⟨-7200, .byRules portugal, some (1943, ⟨8, .on 28, .standard, 79200⟩)⟩,
     ⟨-7200, .byRules portugal, some (1944, ⟨4, .on 22, .standard, 79200⟩)⟩,
     ⟨-7200, .byRules portugal, some (1944, ⟨8, .on 26, .standard, 79200⟩)⟩,
     ⟨-7200, .byRules portugal, some (1945, ⟨4, .on 21, .standard, 79200⟩)⟩,
     ⟨-7200, .byRules portugal, some (1945, ⟨8, .on 25, .standard, 79200⟩)⟩,
     ⟨-7200, .byRules portugal, some (1966, ⟨10, .on 2, .standard, 7200⟩)⟩,
     ⟨-3600, .fixed 0, some (1982, ⟨3, .on 28, .standard, 0⟩)⟩,
     ⟨-3600, .byRules portugal, some (1986, ⟨1, .on 1, .wall, 0⟩)⟩,
     ⟨-3600, .byRules europeanUnion, some (1992, ⟨12, .on 27, .standard, 3600⟩)⟩,
     ⟨0, .byRules europeanUnion, some (1993, ⟨6, .on 17, .universal, 3600⟩)⟩,
     ⟨-3600, .byRules europeanUnion, none⟩]),
   ("Atlantic/Bermuda",
    [⟨-15558, .fixed 0, some (1890, ⟨1, .on 1, .wall, 0⟩)⟩,
     ⟨-15558, .byRules bermuda, some (1930, ⟨1, .on 1, .wall, 7200⟩)⟩,
     ⟨-14400, .byRules bermuda, some (1974, ⟨4, .on 28, .wall, 7200⟩)⟩,
     ⟨-14400, .byRules canada, some (1976, ⟨1, .on 1, .wall, 0⟩)⟩,
     ⟨-14400, .byRules unitedStates, none⟩]),
   ("Atlantic/Canary",
    [⟨-3696, .fixed 0, some (1922, ⟨3, .on 1, .wall, 0⟩)⟩,
     ⟨-3600, .fixed 0, some (1946, ⟨9, .on 30, .wall, 3600⟩)⟩,
     ⟨0, .fixed 0, some (1980, ⟨4, .on 6, .standard, 0⟩)⟩,
     ⟨0, .fixed 3600, some (1980, ⟨9, .on 28, .universal, 3600⟩)⟩,
     ⟨0, .byRules europeanUnion, none⟩]),
   ("Atlantic/Cape_Verde",
    [⟨-5644, .fixed 0, some (1912, ⟨1, .on 1, .universal, 7200⟩)⟩,
     ⟨-7200, .fixed 0, some (1942, ⟨9, .on 1, .wall, 0⟩)⟩,
     ⟨-7200, .fixed 3600, some (1945, ⟨10, .on 15, .wall, 0⟩)⟩,
     ⟨-7200, .fixed 0, some (1975, ⟨11, .on 25, .wall, 7200⟩)⟩,
     ⟨-3600, .fixed 0, none⟩]),
   ("Atlantic/Faroe",
    [⟨-1624, .fixed 0, some (1908, ⟨1, .on 11, .wall, 0⟩)⟩,
     ⟨0, .fixed 0, some (1981, ⟨1, .on 1, .wall, 0⟩)⟩,
     ⟨0, .byRules europeanUnion, none⟩]),
   ("Atlantic/Madeira",
    [⟨-4056, .fixed 0, some (1884, ⟨1, .on 1, .wall, 0⟩)⟩,
     ⟨-4056, .fixed 0, some (1912, ⟨1, .on 1, .universal, 3600⟩)⟩,
     ⟨-3600, .byRules portugal, some (1942, ⟨4, .on 25, .standard, 79200⟩)⟩,
     ⟨-3600, .byRules portugal, some (1942, ⟨8, .on 15, .standard, 79200⟩)⟩,
     ⟨-3600, .byRules portugal, some (1943, ⟨4, .on 17, .standard, 79200⟩)⟩,
     ⟨-3600, .byRules portugal, some (1943, ⟨8, .on 28, .standard, 79200⟩)⟩,
     ⟨-3600, .byRules portugal, some (1944, ⟨4, .on 22, .standard, 79200⟩)⟩,
     ⟨-3600, .byRules portugal, some (1944, ⟨8, .on 26, .standard, 79200⟩)⟩,
     ⟨-3600, .byRules portugal, some (1945, ⟨4, .on 21, .standard, 79200⟩)⟩,
     ⟨-3600, .byRules portugal, some (1945, ⟨8, .on 25, .standard, 79200⟩)⟩,
     ⟨-3600, .byRules portugal, some (1966, ⟨10, .on 2, .standard, 7200⟩)⟩,
     ⟨0, .fixed 0, some (1982, ⟨4, .on 4, .wall, 0⟩)⟩,
     ⟨0, .byRules portugal, some (1986, ⟨7, .on 31, .wall, 0⟩)⟩,
     ⟨0, .byRules europeanUnion, none⟩]),
   ("Atlantic/South_Georgia",
    [⟨-8768, .fixed 0, some (1890, ⟨1, .on 1, .wall, 0⟩)⟩,
     ⟨-7200, .fixed 0, none⟩]),
   ("Atlantic/Stanley",
    [⟨-13884, .fixed 0, some (1890, ⟨1, .on 1, .wall, 0⟩)⟩,
     ⟨-13884, .fixed 0, some (1912, ⟨3, .on 12, .wall, 0⟩)⟩,
     ⟨-14400, .byRules falklands, some (1983, ⟨5, .on 1, .wall, 0⟩)⟩,
     ⟨-10800, .byRules falklands, some (1985, ⟨9, .on 15, .wall, 0⟩)⟩,
     ⟨-14400, .byRules falklands, some (2010, ⟨9, .on 5, .wall, 7200⟩)⟩,
     ⟨-10800, .fixed 0, none⟩]),
   ("Australia/Adelaide",
    [⟨33260, .fixed 0, some (1895, ⟨2, .on 1, .wall, 0⟩)⟩,
     ⟨32400, .fixed 0, some (1899, ⟨5, .on 1, .wall, 0⟩)⟩,
     ⟨34200, .byRules australia, some (1971, ⟨1, .on 1, .wall, 0⟩)⟩,
     ⟨34200, .byRules southAustralia, none⟩]),
   ("Australia/Brisbane",
    [⟨36728, .fixed 0, some (1895, ⟨1, .on 1, .wall, 0⟩)⟩,
     ⟨36000, .byRules australia, some (1971, ⟨1, .on 1, .wall, 0⟩)⟩,
     ⟨36000, .byRules queensland, none⟩]),
   ("Australia/Broken_Hill",
    [⟨33948, .fixed 0, some (1895, ⟨2, .on 1, .wall, 0⟩)⟩,
     ⟨36000, .fixed 0, some (1896, ⟨8, .on 23, .wall, 0⟩)⟩,
     ⟨32400, .fixed 0, some (1899, ⟨5, .on 1, .wall, 0⟩)⟩,
     ⟨34200, .byRules australia, some (1971, ⟨1, .on 1, .wall, 0⟩)⟩,
     ⟨34200, .byRules newSouthWales, some (2000, ⟨1, .on 1, .wall, 0⟩)⟩,
     ⟨34200, .byRules southAustralia, none⟩]),
   ("Australia/Darwin",
    [⟨31400, .fixed 0, some (1895, ⟨2, .on 1, .wall, 0⟩)⟩,
     ⟨32400, .fixed 0, some (1899, ⟨5, .on 1, .wall, 0⟩)⟩,
     ⟨34200, .byRules australia, none⟩]),
   ("Australia/Eucla",
    [⟨30928, .fixed 0, some (1895, ⟨12, .on 1, .wall, 0⟩)⟩,
     ⟨31500, .byRules australia, some (1943, ⟨7, .on 1, .wall, 0⟩)⟩,
     ⟨31500, .byRules westernAustralia, none⟩]),
   ("Australia/Hobart",
    [⟨35356, .fixed 0, some (1895, ⟨9, .on 1, .wall, 0⟩)⟩,
     ⟨36000, .byRules tasmania, some (1919, ⟨10, .on 24, .wall, 0⟩)⟩,
     ⟨36000, .byRules australia, some (1967, ⟨1, .on 1, .wall, 0⟩)⟩,
     ⟨36000, .byRules tasmania, none⟩]),
   ("Australia/Lindeman",
    [⟨35756, .fixed 0, some (1895, ⟨1, .on 1, .wall, 0⟩)⟩,
     ⟨36000, .byRules australia, some (1971, ⟨1, .on 1, .wall, 0⟩)⟩,
     ⟨36000, .byRules queensland, some (1992, ⟨7, .on 1, .wall, 0⟩)⟩,
     ⟨36000, .byRules holidayIslands, none⟩]),
   ("Australia/Lord_Howe",
    [⟨38180, .fixed 0, some (1895, ⟨2, .on 1, .wall, 0⟩)⟩,
     ⟨36000, .fixed 0, some (1981, ⟨3, .on 1, .wall, 0⟩)⟩,
     ⟨37800, .byRules lordHowe, some (1985, ⟨7, .on 1, .wall, 0⟩)⟩,
     ⟨37800, .byRules lordHowe, none⟩]),
   ("Australia/Melbourne",
    [⟨34792, .fixed 0, some (1895, ⟨2, .on 1, .wall, 0⟩)⟩,
     ⟨36000, .byRules australia, some (1971, ⟨1, .on 1, .wall, 0⟩)⟩,
     ⟨36000, .byRules victoria, none⟩]),
   ("Australia/Perth",
    [⟨27804, .fixed 0, some (1895, ⟨12, .on 1, .wall, 0⟩)⟩,
     ⟨28800, .byRules australia, some (1943, ⟨7, .on 1, .wall, 0⟩)⟩,
     ⟨28800, .byRules westernAustralia, none⟩]),
   ("Australia/Sydney",
    [⟨36292, .fixed 0, some (1895, ⟨2, .on 1, .wall, 0⟩)⟩,
     ⟨36000, .byRules australia, some (1971, ⟨1, .on 1, .wall, 0⟩)⟩,
     ⟨36000, .byRules newSouthWales, none⟩]),
   ("Etc/GMT",
    [⟨0, .fixed 0, none⟩]),
   ("Etc/GMT+1",
    [⟨-3600, .fixed 0, none⟩]),
   ("Etc/GMT+10",
    [⟨-36000, .fixed 0, none⟩]),
   ("Etc/GMT+11",
    [⟨-39600, .fixed 0, none⟩]),
   ("Etc/GMT+12",
    [⟨-43200, .fixed 0, none⟩]),
   ("Etc/GMT+2",
    [⟨-7200, .fixed 0, none⟩]),
   ("Etc/GMT+3",
    [⟨-10800, .fixed 0, none⟩]),
   ("Etc/GMT+4",
    [⟨-14400, .fixed 0, none⟩]),
   ("Etc/GMT+5",
    [⟨-18000, .fixed 0, none⟩]),
   ("Etc/GMT+6",
    [⟨-21600, .fixed 0, none⟩]),
   ("Etc/GMT+7",
    [⟨-25200, .fixed 0, none⟩]),
   ("Etc/GMT+8",
    [⟨-28800, .fixed 0, none⟩]),
   ("Etc/GMT+9",
    [⟨-32400, .fixed 0, none⟩])]

def oceansZones2 : List (String × List Era) :=
  [("Etc/GMT-1",
    [⟨3600, .fixed 0, none⟩]),
   ("Etc/GMT-10",
    [⟨36000, .fixed 0, none⟩]),
   ("Etc/GMT-11",
    [⟨39600, .fixed 0, none⟩]),
   ("Etc/GMT-12",
    [⟨43200, .fixed 0, none⟩]),
   ("Etc/GMT-13",
    [⟨46800, .fixed 0, none⟩]),
   ("Etc/GMT-14",
    [⟨50400, .fixed 0, none⟩]),
   ("Etc/GMT-2",
    [⟨7200, .fixed 0, none⟩]),
   ("Etc/GMT-3",
    [⟨10800, .fixed 0, none⟩]),
   ("Etc/GMT-4",
    [⟨14400, .fixed 0, none⟩]),
   ("Etc/GMT-5",
    [⟨18000, .fixed 0, none⟩]),
   ("Etc/GMT-6",
    [⟨21600, .fixed 0, none⟩]),
   ("Etc/GMT-7",
    [⟨25200, .fixed 0, none⟩]),
   ("Etc/GMT-8",
    [⟨28800, .fixed 0, none⟩]),
   ("Etc/GMT-9",
    [⟨32400, .fixed 0, none⟩]),
   ("Etc/UTC",
    [⟨0, .fixed 0, none⟩]),
   ("Indian/Chagos",
    [⟨17380, .fixed 0, some (1907, ⟨1, .on 1, .wall, 0⟩)⟩,
     ⟨18000, .fixed 0, some (1996, ⟨1, .on 1, .wall, 0⟩)⟩,
     ⟨21600, .fixed 0, none⟩]),
   ("Indian/Maldives",
    [⟨17640, .fixed 0, some (1880, ⟨1, .on 1, .wall, 0⟩)⟩,
     ⟨17640, .fixed 0, some (1960, ⟨1, .on 1, .wall, 0⟩)⟩,
     ⟨18000, .fixed 0, none⟩]),
   ("Indian/Mauritius",
    [⟨13800, .fixed 0, some (1907, ⟨1, .on 1, .wall, 0⟩)⟩,
     ⟨14400, .byRules mauritius, none⟩]),
   ("Pacific/Apia",
    [⟨45184, .fixed 0, some (1892, ⟨7, .on 5, .wall, 0⟩)⟩,
     ⟨-41216, .fixed 0, some (1911, ⟨1, .on 1, .wall, 0⟩)⟩,
     ⟨-41400, .fixed 0, some (1950, ⟨1, .on 1, .wall, 0⟩)⟩,
     ⟨-39600, .byRules samoa, some (2011, ⟨12, .on 29, .wall, 86400⟩)⟩,
     ⟨46800, .byRules samoa, none⟩]),
   ("Pacific/Auckland",
    [⟨41944, .fixed 0, some (1868, ⟨11, .on 2, .wall, 0⟩)⟩,
     ⟨41400, .byRules newZealand, some (1946, ⟨1, .on 1, .wall, 0⟩)⟩,
     ⟨43200, .byRules newZealand, none⟩]),
   ("Pacific/Bougainville",
    [⟨37336, .fixed 0, some (1880, ⟨1, .on 1, .wall, 0⟩)⟩,
     ⟨35312, .fixed 0, some (1895, ⟨1, .on 1, .wall, 0⟩)⟩,
     ⟨36000, .fixed 0, some (1942, ⟨7, .on 1, .wall, 0⟩)⟩,
     ⟨32400, .fixed 0, some (1945, ⟨8, .on 21, .wall, 0⟩)⟩,
     ⟨36000, .fixed 0, some (2014, ⟨12, .on 28, .wall, 7200⟩)⟩,
     ⟨39600, .fixed 0, none⟩]),
   ("Pacific/Chatham",
    [⟨44028, .fixed 0, some (1868, ⟨11, .on 2, .wall, 0⟩)⟩,
     ⟨44100, .fixed 0, some (1946, ⟨1, .on 1, .wall, 0⟩)⟩,
     ⟨45900, .byRules chatham, none⟩]),
   ("Pacific/Easter",
    [⟨-26248, .fixed 0, some (1890, ⟨1, .on 1, .wall, 0⟩)⟩,
     ⟨-26248, .fixed 0, some (1932, ⟨9, .on 1, .wall, 0⟩)⟩,
     ⟨-25200, .byRules chile, some (1982, ⟨3, .on 14, .universal, 10800⟩)⟩,
     ⟨-21600, .byRules chile, none⟩]),
   ("Pacific/Efate",
    [⟨40396, .fixed 0, some (1912, ⟨1, .on 13, .wall, 0⟩)⟩,
     ⟨39600, .byRules vanuatu, none⟩]),
   ("Pacific/Fakaofo",
    [⟨-41096, .fixed 0, some (1901, ⟨1, .on 1, .wall, 0⟩)⟩,
     ⟨-39600, .fixed 0, some (2011, ⟨12, .on 30, .wall, 0⟩)⟩,
     ⟨46800, .fixed 0, none⟩]),
   ("Pacific/Fiji",
    [⟨42944, .fixed 0, some (1915, ⟨10, .on 26, .wall, 0⟩)⟩,
     ⟨43200, .byRules fiji, none⟩]),
   ("Pacific/Galapagos",
    [⟨-21504, .fixed 0, some (1931, ⟨1, .on 1, .wall, 0⟩)⟩,
     ⟨-18000, .fixed 0, some (1986, ⟨1, .on 1, .wall, 0⟩)⟩,
     ⟨-21600, .byRules ecuador, none⟩]),
   ("Pacific/Gambier",
    [⟨-32388, .fixed 0, some (1912, ⟨10, .on 1, .wall, 0⟩)⟩,
     ⟨-32400, .fixed 0, none⟩]),
   ("Pacific/Guadalcanal",
    [⟨38388, .fixed 0, some (1912, ⟨10, .on 1, .wall, 0⟩)⟩,
     ⟨39600, .fixed 0, none⟩]),
   ("Pacific/Guam",
    [⟨-51660, .fixed 0, some (1844, ⟨12, .on 31, .wall, 0⟩)⟩,
     ⟨34740, .fixed 0, some (1901, ⟨1, .on 1, .wall, 0⟩)⟩,
     ⟨36000, .fixed 0, some (1941, ⟨12, .on 10, .wall, 0⟩)⟩,
     ⟨32400, .fixed 0, some (1944, ⟨7, .on 31, .wall, 0⟩)⟩,
     ⟨36000, .byRules guam, some (2000, ⟨12, .on 23, .wall, 0⟩)⟩,
     ⟨36000, .fixed 0, none⟩]),
   ("Pacific/Honolulu",
    [⟨-37886, .fixed 0, some (1896, ⟨1, .on 13, .wall, 43200⟩)⟩,
     ⟨-37800, .fixed 0, some (1933, ⟨4, .on 30, .wall, 7200⟩)⟩,
     ⟨-37800, .fixed 3600, some (1933, ⟨5, .on 21, .wall, 43200⟩)⟩,
     ⟨-37800, .byRules unitedStates, some (1947, ⟨6, .on 8, .wall, 7200⟩)⟩,
     ⟨-36000, .fixed 0, none⟩]),
   ("Pacific/Kanton",
    [⟨0, .fixed 0, some (1937, ⟨8, .on 31, .wall, 0⟩)⟩,
     ⟨-43200, .fixed 0, some (1979, ⟨10, .on 1, .wall, 0⟩)⟩,
     ⟨-39600, .fixed 0, some (1994, ⟨12, .on 31, .wall, 0⟩)⟩,
     ⟨46800, .fixed 0, none⟩]),
   ("Pacific/Kiritimati",
    [⟨-37760, .fixed 0, some (1901, ⟨1, .on 1, .wall, 0⟩)⟩,
     ⟨-38400, .fixed 0, some (1979, ⟨10, .on 1, .wall, 0⟩)⟩,
     ⟨-36000, .fixed 0, some (1994, ⟨12, .on 31, .wall, 0⟩)⟩,
     ⟨50400, .fixed 0, none⟩]),
   ("Pacific/Kosrae",
    [⟨-47284, .fixed 0, some (1844, ⟨12, .on 31, .wall, 0⟩)⟩,
     ⟨39116, .fixed 0, some (1901, ⟨1, .on 1, .wall, 0⟩)⟩,
     ⟨39600, .fixed 0, some (1914, ⟨10, .on 1, .wall, 0⟩)⟩,
     ⟨32400, .fixed 0, some (1919, ⟨2, .on 1, .wall, 0⟩)⟩,
     ⟨39600, .fixed 0, some (1937, ⟨1, .on 1, .wall, 0⟩)⟩,
     ⟨36000, .fixed 0, some (1941, ⟨4, .on 1, .wall, 0⟩)⟩,
     ⟨32400, .fixed 0, some (1945, ⟨8, .on 1, .wall, 0⟩)⟩,
     ⟨39600, .fixed 0, some (1969, ⟨10, .on 1, .wall, 0⟩)⟩,
     ⟨43200, .fixed 0, some (1999, ⟨1, .on 1, .wall, 0⟩)⟩,
     ⟨39600, .fixed 0, none⟩]),
   ("Pacific/Kwajalein",
    [⟨40160, .fixed 0, some (1901, ⟨1, .on 1, .wall, 0⟩)⟩,
     ⟨39600, .fixed 0, some (1937, ⟨1, .on 1, .wall, 0⟩)⟩,
     ⟨36000, .fixed 0, some (1941, ⟨4, .on 1, .wall, 0⟩)⟩,
     ⟨32400, .fixed 0, some (1944, ⟨2, .on 6, .wall, 0⟩)⟩,
     ⟨39600, .fixed 0, some (1969, ⟨10, .on 1, .wall, 0⟩)⟩,
     ⟨-43200, .fixed 0, some (1993, ⟨8, .on 20, .wall, 86400⟩)⟩,
     ⟨43200, .fixed 0, none⟩]),
   ("Pacific/Marquesas",
    [⟨-33480, .fixed 0, some (1912, ⟨10, .on 1, .wall, 0⟩)⟩,
     ⟨-34200, .fixed 0, none⟩]),
   ("Pacific/Nauru",
    [⟨40060, .fixed 0, some (1921, ⟨1, .on 15, .wall, 0⟩)⟩,
     ⟨41400, .fixed 0, some (1942, ⟨8, .on 29, .wall, 0⟩)⟩,
     ⟨32400, .fixed 0, some (1945, ⟨9, .on 8, .wall, 0⟩)⟩,
     ⟨41400, .fixed 0, some (1979, ⟨2, .on 10, .wall, 7200⟩)⟩,
     ⟨43200, .fixed 0, none⟩]),
   ("Pacific/Niue",
    [⟨-40780, .fixed 0, some (1952, ⟨10, .on 16, .wall, 0⟩)⟩,
     ⟨-40800, .fixed 0, some (1964, ⟨7, .on 1, .wall, 0⟩)⟩,
     ⟨-39600, .fixed 0, none⟩]),
   ("Pacific/Norfolk",
    [⟨40312, .fixed 0, some (1901, ⟨1, .on 1, .wall, 0⟩)⟩,
     ⟨40320, .fixed 0, some (1951, ⟨1, .on 1, .wall, 0⟩)⟩,
     ⟨41400, .fixed 0, some (1974, ⟨10, .on 27, .standard, 7200⟩)⟩,
     ⟨41400, .fixed 3600, some (1975, ⟨3, .on 2, .standard, 7200⟩)⟩,
     ⟨41400, .fixed 0, some (2015, ⟨10, .on 4, .standard, 7200⟩)⟩,
     ⟨39600, .fixed 0, some (2019, ⟨7, .on 1, .wall, 0⟩)⟩,
     ⟨39600, .byRules newSouthWales, none⟩]),
   ("Pacific/Noumea",
    [⟨39948, .fixed 0, some (1912, ⟨1, .on 13, .wall, 0⟩)⟩,
     ⟨39600, .byRules newCaledonia, none⟩])]

def oceansZones3 : List (String × List Era) :=
  [("Pacific/Pago_Pago",
    [⟨45432, .fixed 0, some (1892, ⟨7, .on 5, .wall, 0⟩)⟩,
     ⟨-40968, .fixed 0, some (1911, ⟨1, .on 1, .wall, 0⟩)⟩,
     ⟨-39600, .fixed 0, none⟩]),
   ("Pacific/Palau",
    [⟨-54124, .fixed 0, some (1844, ⟨12, .on 31, .wall, 0⟩)⟩,
     ⟨32276, .fixed 0, some (1901, ⟨1, .on 1, .wall, 0⟩)⟩,
     ⟨32400, .fixed 0, none⟩]),
   ("Pacific/Pitcairn",
    [⟨-31220, .fixed 0, some (1901, ⟨1, .on 1, .wall, 0⟩)⟩,
     ⟨-30600, .fixed 0, some (1998, ⟨4, .on 27, .wall, 0⟩)⟩,
     ⟨-28800, .fixed 0, none⟩]),
   ("Pacific/Port_Moresby",
    [⟨35320, .fixed 0, some (1880, ⟨1, .on 1, .wall, 0⟩)⟩,
     ⟨35312, .fixed 0, some (1895, ⟨1, .on 1, .wall, 0⟩)⟩,
     ⟨36000, .fixed 0, none⟩]),
   ("Pacific/Rarotonga",
    [⟨48056, .fixed 0, some (1899, ⟨12, .on 26, .wall, 0⟩)⟩,
     ⟨-38344, .fixed 0, some (1952, ⟨10, .on 16, .wall, 0⟩)⟩,
     ⟨-37800, .fixed 0, some (1978, ⟨11, .on 12, .wall, 0⟩)⟩,
     ⟨-36000, .byRules cookIslands, none⟩]),
   ("Pacific/Tahiti",
    [⟨-35896, .fixed 0, some (1912, ⟨10, .on 1, .wall, 0⟩)⟩,
     ⟨-36000, .fixed 0, none⟩]),
   ("Pacific/Tarawa",
    [⟨41524, .fixed 0, some (1901, ⟨1, .on 1, .wall, 0⟩)⟩,
     ⟨43200, .fixed 0, none⟩]),
   ("Pacific/Tongatapu",
    [⟨44352, .fixed 0, some (1945, ⟨9, .on 10, .wall, 0⟩)⟩,
     ⟨44400, .fixed 0, some (1961, ⟨1, .on 1, .wall, 0⟩)⟩,
     ⟨46800, .fixed 0, some (1999, ⟨1, .on 1, .wall, 0⟩)⟩,
     ⟨46800, .byRules tonga, none⟩])]

def oceansZones : List (String × List Era) :=
  oceansZones1 ++ oceansZones2 ++ oceansZones3

end Punctual.ZoneTable
