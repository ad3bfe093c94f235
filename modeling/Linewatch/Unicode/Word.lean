import Linewatch.Unicode.CharTable

namespace Linewatch.Unicode

/-- The word characters of Unicode 17 by gaps and lengths. -/
def wordGaps : List Nat :=
  [48, 9, 7, 25, 4, 0, 1, 25, 47, 0, 10, 0, 4, 0, 5, 22, 1, 30, 1, 457, 4, 11, 14, 4, 7, 0, 1,
   0, 17, 116, 1, 1, 2, 3, 1, 0, 6, 0, 1, 2, 1, 0, 1, 19, 1, 82, 1, 138, 1, 172, 1, 37, 2, 0, 6,
   40, 8, 44, 1, 0, 1, 1, 1, 1, 1, 0, 8, 26, 4, 3, 29, 10, 5, 73, 4, 101, 1, 7, 2, 9, 1, 18, 2,
   0, 16, 58, 2, 100, 14, 53, 4, 0, 2, 0, 2, 45, 18, 27, 4, 10, 5, 23, 1, 6, 7, 74, 1, 128, 2,
   9, 1, 18, 1, 7, 2, 1, 2, 21, 1, 6, 1, 0, 3, 3, 2, 8, 2, 1, 2, 3, 8, 0, 4, 1, 1, 4, 2, 11, 10,
   0, 1, 0, 2, 2, 1, 5, 4, 1, 2, 21, 1, 6, 1, 1, 1, 1, 1, 1, 2, 0, 1, 4, 4, 1, 2, 2, 3, 0, 7, 3,
   1, 0, 7, 15, 11, 2, 1, 8, 1, 2, 1, 21, 1, 6, 1, 1, 1, 4, 2, 9, 1, 2, 1, 2, 2, 0, 15, 3, 2, 9,
   9, 6, 1, 2, 1, 7, 2, 1, 2, 21, 1, 6, 1, 1, 1, 4, 2, 8, 2, 1, 2, 2, 7, 2, 4, 1, 1, 4, 2, 9, 1,
   0, 16, 1, 1, 5, 3, 2, 1, 3, 3, 1, 1, 0, 1, 1, 3, 1, 3, 2, 3, 11, 4, 4, 3, 2, 1, 3, 2, 0, 6,
   0, 14, 9, 16, 12, 1, 2, 1, 22, 1, 15, 2, 8, 1, 2, 1, 3, 7, 1, 1, 2, 1, 1, 2, 3, 2, 9, 16, 3,
   1, 7, 1, 2, 1, 22, 1, 9, 1, 4, 2, 8, 1, 2, 1, 3, 7, 1, 5, 2, 1, 3, 2, 9, 1, 2, 12, 12, 1, 2,
   1, 50, 1, 2, 1, 4, 5, 3, 7, 4, 2, 9, 10, 5, 1, 2, 1, 17, 3, 23, 1, 8, 1, 0, 2, 6, 3, 0, 4, 5,
   1, 0, 1, 7, 6, 9, 2, 1, 13, 57, 5, 14, 1, 9, 39, 1, 1, 0, 1, 4, 1, 23, 1, 0, 1, 22, 2, 4, 1,
   0, 1, 6, 1, 9, 2, 3, 32, 0, 23, 1, 6, 9, 11, 0, 1, 0, 1, 0, 4, 9, 1, 35, 4, 19, 1, 17, 1, 35,
   9, 0, 57, 73, 6, 77, 2, 37, 1, 0, 5, 0, 2, 42, 1, 332, 1, 3, 2, 6, 1, 0, 1, 3, 2, 40, 1, 3,
   2, 32, 1, 3, 2, 6, 1, 0, 1, 3, 2, 14, 1, 56, 1, 3, 2, 66, 2, 2, 32, 15, 16, 85, 2, 5, 3, 619,
   2, 16, 1, 25, 5, 74, 3, 10, 7, 21, 9, 21, 11, 19, 12, 12, 1, 2, 1, 1, 12, 83, 3, 0, 4, 1, 2,
   9, 33, 2, 1, 10, 6, 88, 7, 42, 5, 69, 10, 30, 1, 11, 4, 11, 10, 39, 2, 4, 11, 43, 4, 25, 6,
   9, 38, 27, 4, 62, 1, 28, 2, 10, 6, 9, 13, 0, 8, 45, 2, 11, 20, 76, 3, 9, 17, 8, 12, 115, 12,
   55, 8, 9, 3, 48, 2, 10, 5, 42, 2, 2, 16, 2, 1, 38, 5, 533, 2, 5, 2, 37, 2, 5, 2, 7, 1, 0, 1,
   0, 1, 0, 1, 30, 2, 52, 1, 6, 1, 0, 3, 2, 1, 6, 3, 3, 2, 5, 4, 12, 5, 2, 1, 6, 15, 1, 49, 1,
   19, 0, 28, 0, 13, 0, 16, 12, 51, 32, 17, 0, 4, 0, 2, 9, 1, 0, 3, 4, 6, 0, 1, 0, 1, 0, 1, 3,
   1, 10, 2, 3, 5, 4, 4, 0, 17, 40, 813, 51, 1814, 228, 6, 8, 12, 37, 1, 0, 5, 0, 2, 55, 7, 0,
   15, 23, 9, 6, 1, 6, 1, 6, 1, 6, 1, 6, 1, 6, 1, 6, 1, 6, 1, 31, 47, 0, 469, 2, 25, 14, 1, 4,
   2, 4, 4, 85, 2, 1, 2, 2, 1, 89, 1, 3, 5, 42, 1, 93, 17, 31, 48, 15, 512, 6591, 64, 22156, 67,
   45, 2, 268, 3, 27, 20, 50, 1, 9, 1, 114, 37, 8, 2, 102, 2, 81, 20, 54, 4, 0, 19, 51, 12, 69,
   10, 9, 6, 23, 3, 0, 1, 48, 2, 35, 12, 28, 3, 64, 14, 10, 6, 30, 1, 54, 9, 13, 2, 9, 6, 22, 3,
   72, 24, 2, 2, 15, 2, 4, 10, 5, 2, 5, 2, 5, 9, 6, 1, 6, 1, 42, 1, 13, 6, 122, 1, 1, 2, 9, 6,
   11171, 12, 22, 4, 48, 8452, 365, 2, 105, 38, 6, 12, 4, 5, 11, 1, 12, 1, 4, 1, 0, 1, 1, 1, 1,
   1, 107, 33, 362, 18, 63, 2, 53, 40, 11, 4, 15, 16, 15, 3, 1, 24, 2, 32, 4, 1, 134, 19, 9, 7,
   25, 4, 0, 1, 25, 11, 88, 3, 5, 2, 5, 2, 5, 2, 2, 35, 11, 1, 25, 1, 18, 1, 1, 1, 14, 2, 13,
   34, 122, 69, 52, 136, 0, 130, 28, 3, 48, 15, 0, 31, 31, 13, 29, 5, 42, 5, 29, 2, 35, 4, 7, 1,
   4, 42, 157, 2, 9, 6, 35, 4, 35, 4, 39, 8, 51, 12, 10, 1, 14, 1, 6, 1, 1, 1, 10, 1, 14, 1, 6,
   1, 1, 3, 51, 12, 310, 9, 21, 10, 7, 24, 5, 1, 41, 1, 8, 69, 5, 2, 0, 1, 43, 1, 1, 3, 0, 2,
   22, 10, 22, 9, 30, 65, 18, 1, 1, 10, 21, 10, 25, 6, 25, 38, 55, 6, 1, 64, 3, 1, 1, 5, 7, 1,
   2, 1, 28, 2, 2, 4, 0, 32, 28, 3, 28, 35, 7, 1, 29, 25, 53, 10, 21, 10, 18, 13, 17, 110, 72,
   55, 50, 13, 50, 13, 39, 8, 9, 6, 37, 3, 4, 1, 22, 250, 41, 1, 1, 3, 1, 16, 5, 50, 34, 10, 0,
   8, 32, 31, 21, 42, 20, 27, 22, 9, 70, 31, 15, 9, 59, 7, 0, 13, 24, 7, 9, 6, 52, 1, 9, 4, 3,
   8, 35, 2, 0, 9, 68, 4, 3, 1, 12, 1, 0, 35, 17, 1, 36, 6, 3, 62, 6, 1, 0, 1, 3, 1, 14, 1, 9,
   7, 58, 5, 9, 6, 3, 1, 7, 2, 1, 2, 21, 1, 6, 1, 1, 1, 4, 1, 9, 2, 1, 2, 2, 2, 0, 6, 0, 5, 6,
   2, 6, 3, 4, 11, 9, 1, 0, 2, 0, 1, 37, 1, 9, 1, 0, 2, 0, 1, 3, 1, 7, 13, 1, 29, 74, 5, 9, 4,
   3, 30, 69, 1, 0, 8, 9, 166, 53, 2, 8, 23, 5, 34, 64, 3, 0, 11, 9, 38, 56, 7, 9, 6, 19, 28,
   26, 2, 14, 4, 9, 6, 6, 185, 58, 101, 73, 21, 7, 2, 0, 2, 7, 1, 1, 1, 29, 1, 1, 2, 8, 12, 9,
   70, 7, 2, 45, 2, 7, 1, 1, 27, 62, 8, 0, 8, 73, 3, 0, 18, 72, 103, 7, 88, 32, 15, 9, 6, 8, 1,
   44, 1, 8, 15, 9, 24, 29, 2, 21, 1, 13, 73, 6, 1, 1, 1, 43, 3, 0, 1, 1, 1, 8, 8, 9, 6, 5, 1,
   1, 1, 36, 1, 1, 1, 5, 7, 9, 6, 43, 4, 9, 246, 22, 9, 16, 1, 40, 3, 4, 13, 10, 85, 0, 79, 921,
   102, 110, 17, 195, 2636, 96, 15, 1071, 16, 21, 10, 3994, 5, 582, 6841, 57, 1734, 568, 7, 30,
   1, 9, 6, 78, 1, 9, 6, 29, 2, 4, 11, 54, 9, 3, 12, 9, 9, 20, 5, 18, 432, 44, 3, 9, 198, 63,
   32, 24, 2, 24, 44, 74, 4, 56, 7, 16, 64, 1, 1, 1, 11, 6, 9, 7381, 41, 31, 97, 114, 8701, 3,
   1, 6, 1, 1, 1, 290, 15, 0, 29, 2, 2, 0, 14, 3, 8, 395, 2308, 106, 5, 12, 3, 8, 7, 9, 3, 1,
   4177, 9, 518, 45, 2, 22, 542, 4, 3, 5, 8, 7, 2, 6, 30, 3, 148, 2, 443, 84, 1, 70, 1, 1, 2, 0,
   2, 1, 2, 3, 1, 11, 1, 0, 1, 6, 1, 64, 1, 3, 2, 7, 1, 6, 1, 27, 1, 3, 1, 4, 1, 0, 3, 6, 1,
   339, 2, 24, 1, 24, 1, 30, 1, 24, 1, 30, 1, 24, 1, 30, 1, 24, 1, 30, 1, 24, 1, 7, 2, 49, 512,
   54, 4, 49, 8, 0, 14, 0, 22, 4, 1, 14, 1104, 30, 6, 5, 213, 6, 1, 16, 2, 6, 1, 1, 1, 4, 5, 61,
   33, 0, 112, 44, 3, 13, 2, 9, 4, 0, 321, 30, 17, 57, 470, 41, 214, 42, 197, 30, 1, 21, 8, 1,
   224, 6, 1, 3, 1, 1, 1, 14, 1, 196, 11, 6, 41, 75, 4, 9, 1190, 3, 1, 26, 1, 1, 1, 0, 2, 0, 1,
   9, 1, 3, 1, 0, 1, 0, 6, 0, 4, 0, 1, 0, 1, 0, 1, 2, 1, 1, 1, 0, 2, 0, 1, 0, 1, 0, 1, 0, 1, 0,
   1, 1, 1, 0, 2, 3, 1, 6, 1, 3, 1, 3, 1, 0, 1, 9, 1, 16, 5, 2, 1, 4, 1, 16, 628, 25, 6, 25, 6,
   25, 2662, 9, 1030, 42719, 32, 4381, 2, 5773, 2, 7472, 15, 621, 2466, 541, 1506, 4938, 5,
   8489, 707718, 239]

def wordTable : CharTable := .ofGaps wordGaps

def isAsciiWord (c : Char) : Bool :=
  ('a' ≤ c && c ≤ 'z') || ('A' ≤ c && c ≤ 'Z') || ('0' ≤ c && c ≤ '9') || c == '_'

/-- Whether a character is a word character. Below 128 these are the ASCII word characters, and no
table is searched. -/
def isWord (c : Char) : Bool :=
  if c.toNat < 128 then isAsciiWord c else wordTable.contains c

end Linewatch.Unicode
