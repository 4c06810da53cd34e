import KernelHub.Url.Idna.Composition

/-
Marks, and the two joiners, which are allowed only where they change how the letters
around them are written.
-/

namespace KernelHub.Url.Idna

open Text.Packed

/-- Characters that are marks. -/
def marks : List Run := plainRuns "
lc 33 7n 6 7b 18 1 0 1 1 1 1 1 0 20 a 1c k g 0 2t 6 2 5 2 1 1 3 z 0 u q 2j a 1m 8 9 0 o 3 1 8
1 2 1 4 17 2 1n 8 16 1l 1i 2 1 h 1 6 a 1 t 2 1k 0 1 f 9 0 a 1 q 5 1k l u 1 3 0 b 2 1k 0 1 f k
1 m 9 1k 0 1 p a 1 u 0 1n f 9 0 14 4 1j 0 1 o b 1 t 2 1k 0 1 o b 1 f g 1j 1 1 f 9 0 a 1 t 2 1y
l i 1 1p 0 2 6 c 7 2q 0 2 8 b 6 21 1 r 0 1 0 1 0 4 1 1d j 1 1 5 1b 9 0 2s j n 3 4 2 1 2 2 6 3
3 d b 1 0 a 3 jj 2 qa 3 s 2 t 1 u 1 1u t 9 0 4n 1 y 0 3a r 63 4 1l 16 1c 2c 1b g 12 8 c 2 u c
1k d 1c j 48 2 1 k 4 0 6 0 2 2 5i 1r k0 w 2da 2 3x 0 2o v fe 5 2x 1 n9w 3 1 9 w 1 28 1 7k 0 3
0 4 0 n 4 4 0 2b 1 1e h q h d 0 12 7 p c 18 3 1b d 10 0 1v d c 0 8 1 19 2 1e 0 1 2 2 1 5 1 1 0
15 4 5 1 6k 7 1 1 fn4 0 ld f r1 0 6a 0 45 4 1ae e 14 7 4l 1 fx 3 1t 4 8t 1 25 5 1y a 1d 3 3e 2
1h e 15 0 2 1 a 3 19 a 7 0 1p 2 10 d g 1 18 0 c 2 1c d 8 3 1 1 2k b 6 0 2 0 4d b l 3 1j 1 1 f
9 0 a i 1v o 1 0 e 1 2a h n 0 29 j 6j h r 1 2a g 2y c 2t e 74 e 6t e 1 0 1 1 3x f 3 0 s 9 14 6
1 3 8 0 9 a 1a f 5i 7 5j g 2a 10 3e k 1 0 1u d 9n 3 9 1 1 0 1c e n 0 44l 0 6 e 8ug h 1xc 4 1n
6 t4 0 1 1t 29 d f57 1 3mp 1y f2 4 3 l 2 6 u 3 44 2 1iz 1i 4 1d 8 0 e 0 m k 11s 3z 4g 6 af 0
1p 3 e4 3 72 1 6r 0 2 0 7 1 5 0 d6 6 31 6
"

def isMark (c : Char) : Bool := has marks c

/-- Does a character cut off the vowel of the letter before it? -/
def cutsVowel (c : Char) : Bool := Composition.classOf c.toNat = 9

/-- How letters join: 1 not at all but letting others join across, 2 to the next one, 3 to
the one before, 4 to both. -/
def joinings : List Run := runs "
lc 33 1 7n 6 1 7b 18 1 1 0 1 1 1 1 1 1 1 1 0 1 20 a 1 5 0 4 1 3 3 0 0 4 0 0 3 0 0 4 0 0 3 0 4
4 0 3 3 0 c 4 1 6 4 0 0 3 0 1 4 0 k 1 e 1 4 0 0 1 0 2 3 5 e 4 0 h 3 0 11 4 0 0 3 0 1 4 0 8 3 0
0 4 0 0 3 0 0 4 0 0 3 0 1 4 0 1 3 1 0 3 0 6 1 2 5 1 2 1 1 1 3 1 0 1 3 a 2 4 2 0 4 g 0 3 0 0 1
0 2 4 0 4 3 0 3 4 0 0 3 0 8 4 0 0 3 0 0 4 0 0 3 0 0 4 0 0 3 0 1 4 0 0 3 0 q 1 2 0 3 0 a 4 0 2
3 0 e 4 0 1 3 0 3 4 0 0 3 0 0 4 0 1 3 0 2 4 0 1 3 0 5 4 12 a 1 p w 4 0 8 1 9 0 1 o 3 1 1 8 1 1
2 1 1 4 1 i 0 3 0 4 4 0 1 3 0 0 4 0 0 3 0 9 4 0 0 3 0 0 4 0 2 3 0 2 1 4 0 4 1 3 4 1 0 3 0 0 4
0 p 3 3 0 4 2 4 4 0 0 3 0 0 4 7 8 1 0 9 4 0 2 3 1 0 3 0 1 4 0 1 3 0 5 4 0 0 3 0 e 4 1 1k 1 1j
0 1 1 0 1 4 7 1 4 0 1 3 6 1 a 1 1 t 0 1 1m 0 1 4 3 1 8 0 1 k 1 1 q 4 1 1l 0 1 4 g 1 u 1 1 3 0
1 b 1 1 1l 0 1 4 7 1 4 0 1 k 1 1 m 7 1 1m 0 1 2 0 1 1 3 1 8 9 1 b 1 1 u 0 1 1p 0 1 c 0 1 1e 0
1 3 0 1 1j 0 1 1 2 1 5 g 1 b 1 1 t 0 1 1m 0 1 2 0 1 6 0 1 5 1 1 k 1 1 s 1 1 1l 1 1 4 3 1 8 0 1
k 1 1 t 0 1 20 0 1 7 4 1 2i 0 1 2 6 1 c 7 1 2q 0 1 2 8 1 b 6 1 21 1 1 r 0 1 1 0 1 1 0 1 1j d 1
1 4 1 1 1 1 5 1b 1 9 0 1 2u 3 1 1 5 1 1 1 1 2 1 1 p 1 1 4 2 1 g 3 1 d 0 1 2 1 1 6 0 1 f 0 1 jj
2 1 qa 2 1 t 1 1 u 1 1 u 1 1 1v 6 1 8 0 1 2 a 1 9 0 1 15 0 4 o 2g 4 c 1 1 0 x 4 0 0 1 0 0 4 39
2 1 4 1 1 9 0 1 6 2 1 63 1 1 2 0 1 1m 0 1 1 8 1 1 0 1 2 7 1 6 c 1 1c 2b 1 1c 0 1 1 4 1 1 0 1 5
0 1 14 8 1 c 1 1 w 3 1 2 1 1 1 2 1 1k 0 1 1 1 1 3 0 1 1 2 1 1m 7 1 2 1 1 48 2 1 1 c 1 1 6 1 4
0 1 6 0 1 3 1 1 5i 1r 1 k0 w 1 2da 2 1 3x 0 1 2o v 1 fe 3 1 2z 1 1 n9w 3 1 1 9 1 w 1 1 28 1 1
7k 0 1 3 0 1 4 0 1 p 1 1 5 0 1 j 1d 4 0 0 2 29 1 1 q h 1 d 0 1 12 7 1 p a 1 1a 2 1 1c 0 1 2 3
1 2 1 1 13 0 1 1v 5 1 2 1 1 2 1 1 c 0 1 8 0 1 1b 0 1 1f 0 1 1 2 1 2 1 1 5 1 1 1 0 1 16 1 1 8 0
1 6m 0 1 2 0 1 4 0 1 fn4 0 1 ld f 1 r1 0 1 6a 0 1 45 4 1 1ae e 1 14 7 1 3k 4 4 0 0 3 1 0 3 1 1
3 2 0 2 0 4 3 0 3 4 0 0 2 0 4 4 0 0 3 0 2 4 0 0 3 2 0 3 0 1 1 4 3 4 0 0 3 40 0 4 0 0 3 0 0 4 0
2 3 0 2 4 0 0 3 0 1 4 0 0 3 0 0 4 0 1 3 0 0 4 0 0 3 n 3 3 0 1 4 9d 0 2 0 w 4 0 0 3 0 0 4 0 3 1
1t 4 1 8t 1 1 l 0 3 0 1 4 1 1 4 1e 5 1 1c 2 4 0 0 3 0 g 4 1 a 1 0 2 4 0 0 3 r 3 4 0 1 3 0 b 4
0 3 1 16 0 4 1 1 4 0 2 3 1 0 4 0 1 3 0 1 4 0 0 3 0 1 4 1 0 4 0 1 3 0 0 4 4 0 3 0 0 4 0 0 2 1h
0 1 1i e 1 15 0 1 2 1 1 a 2 1 1d 3 1 2 1 1 7 0 1 1p 2 1 10 4 1 1 7 1 1q 0 1 c 1 1 1g 8 1 a 3 1
2 0 1 2n 2 1 2 0 1 1 1 1 6 0 1 2 0 1 4d 0 1 3 7 1 l 1 1 1l 1 1 3 0 1 11 e 1 1y 5 1 d 0 1 1 0 1
1 0 1 e 1 1 2d 7 1 2 2 1 1 0 1 n 0 1 2c 5 1 1 0 1 4 1 1 1 1 1 6m 3 1 6 1 1 1 1 1 r 1 1 2d 7 1
2 0 1 1 1 1 2y 0 1 1 0 1 2 5 1 1 0 1 2t 0 1 1 0 1 2 3 1 1 4 1 77 8 1 1 1 1 74 1 1 1 0 1 4 0 1
40 7 1 4 0 1 w 9 1 14 5 1 2 3 1 8 0 1 9 5 1 2 2 1 1a c 1 1 1 1 5i 0 1 1 2 1 1 0 1 5l d 1 1 0 1
2a l 1 2 6 1 1 1 1 1 1 1 3e k 1 1 0 1 20 1 1 3 0 1 1 0 1 9n 1 1 b 1 1 1g 4 1 5 0 1 1 0 1 n 0 1
44l 0 1 6 e 1 8ug b 1 3 2 1 1xc 4 1 1n 6 1 t4 0 1 1r 3 1 29 0 1 f5k 1 1 3mp 1y 1 f4 2 1 h 7 1
2 6 1 u 3 1 44 2 1 1iz 1i 1 4 1d 1 8 0 1 e 0 1 m k 1 11s 3z 1 4g 6 1 af 0 1 1p 3 1 e4 3 1 72 1
1 6r 0 1 2 0 1 7 1 1 5 0 1 d6 6 1 23 x 4 0 7 1
"

/-- Is the first of the characters that count one that joins in a way? -/
def meets (ways : List Nat) : List Char → Bool
  | [] => false
  | c :: cs =>
    match value? joinings c.toNat with
    | some 1 => meets ways cs
    | some way => ways.contains way
    | none => false

/-- May the character stand here? What comes before it is given backwards. -/
def joinerFits (before : List Char) (c : Char) (after : List Char) : Bool :=
  if c.toNat = 0x200C then
    before.head?.any cutsVowel || (meets [2, 4] before && meets [3, 4] after)
  else if c.toNat = 0x200D then before.head?.any cutsVowel
  else true

def joinersFitAfter (before : List Char) : List Char → Bool
  | [] => true
  | c :: cs => joinerFits before c cs && joinersFitAfter (c :: before) cs

/-- Is every joiner where it may be? -/
def joinersFit (cs : List Char) : Bool := joinersFitAfter [] cs

end KernelHub.Url.Idna
