import KernelHub.Text.Packed

/-
The directions of characters. In a domain with a character that goes from right to left,
each label has to go one way, so that its ends stay its ends when it is shown.
-/

namespace KernelHub.Url.Idna

open Text.Packed

inductive Direction
  | left
  | right
  | arabicNumber
  | europeanNumber
  | mark
  | neutral
  | none
deriving DecidableEq, Repr

/-- The directions of characters that do not go from left to right. -/
def directions : List Run := runs "
0 8 5 0 4 6 0 d 5 0 4 6 0 e 5 0 9 3 0 12 5 q 2k 5 v 0 5 ch 1 5 7 d 5 2 r 5 1 g 5 0 33 4 5 0 5
3k 0 5 3w 6 4 74 5 5 1 18 4 0 0 1 0 0 4 0 0 1 0 1 4 0 0 1 0 1 4 0 0 1 0 0 4 8 10 1 h 1 5 0 0 1
0 1 5 0 0 1 0 0 5 0 0 1 0 1 5 0 a 4 0 1b 1 0 k 4 0 9 2 0 0 5 0 1 2 0 2 1 0 0 4 0 2s 1 0 6 4 1
0 5 0 5 4 0 1 1 0 1 4 0 0 5 0 3 4 0 1 1 0 9 3 0 m 1 0 0 4 0 t 1 0 q 4 2 2g 1 0 a 4 0 1l 1 0 8
4 0 1 1 0 3 5 0 0 1 2 0 4 0 n 1 0 3 4 0 0 1 0 8 4 0 0 1 0 2 4 0 0 1 0 4 4 2 14 1 0 2 4 2 1d 1
7 8 4 0 15 1 0 1k 4 1j 0 4 1 0 4 4 7 4 4 0 4 3 6 4 a 1 4 t 0 4 1m 0 4 4 3 4 8 0 4 k 1 4 e 1 5
7 0 5 2 4 4 1l 0 4 4 g 4 u 1 4 3 0 4 b 1 4 1l 0 4 4 7 4 4 0 4 k 1 4 d 0 5 8 7 4 1m 0 4 2 0 4 1
3 4 8 9 4 b 1 4 u 0 4 1p 0 4 c 0 4 11 7 5 5 0 4 3 0 4 1j 0 4 1 2 4 5 g 4 b 1 4 k 6 5 2 0 4 1m
0 4 f 1 4 k 1 4 s 1 4 1l 1 4 4 3 4 8 0 4 k 1 4 t 0 4 20 0 4 7 4 4 2i 0 4 2 6 4 4 0 5 7 7 4 2q
0 4 2 8 4 b 6 4 21 1 4 r 0 4 1 0 4 1 0 4 0 3 5 1f d 4 1 4 4 1 1 4 5 1b 4 9 0 4 2u 3 4 1 5 4 1
1 4 2 1 4 p 1 4 4 2 4 g 3 4 d 0 4 2 1 4 6 0 4 f 0 4 jj 2 4 1c 9 5 2u 0 5 ii 1 5 39 2 4 t 1 4 u
1 4 u 1 4 1v 6 4 8 0 4 2 a 4 7 0 5 1 0 4 i q 5 3e 1 4 y 0 4 3a 2 4 4 1 4 9 0 4 6 2 4 4 5 5 48
x 5 n 1 4 2 0 4 1m 0 4 1 8 4 1 0 4 2 7 4 6 c 4 1c 2b 4 1c 0 4 1 4 4 1 0 4 5 0 4 14 8 4 c 1 4 w
3 4 2 1 4 1 2 4 1k 0 4 1 1 4 3 0 4 1 2 4 1m 7 4 2 1 4 48 2 4 1 c 4 1 6 4 4 0 4 6 0 4 3 1 4 5i
1r 4 ek 51 5 e w 4 j 21 5 1o bv 5 1x p 5 1 40 5 p h7 5 1 9e 5 74 id 5 1 2w 5 6d 5 5 4 2 4 7 6
5 3j 0 4 2o v 4 0 ec 5 3 o 5 9 3 4 2 0 5 6 0 5 5 2 5 2h 1 4 5 0 5 2i 0 5 5g z 5 5i4 1r 5 h3k
1i 5 92 2 5 2n 3 4 0 0 5 0 9 4 0 1 5 u 1 4 28 1 4 e x 5 2u 0 5 3d 0 4 3 0 4 4 0 4 p 1 4 1 3 5
0 0 4 b 1 5 1m 3 5 24 1 4 q h 4 d 0 4 12 7 4 p a 4 1a 2 4 1c 0 4 2 3 4 2 1 4 13 0 4 1v 5 4 2 1
4 2 1 4 c 0 4 8 0 4 1b 0 4 1f 0 4 1 2 4 2 1 4 5 1 4 1 0 4 16 1 4 8 0 4 37 1 5 3d 0 4 2 0 4 4 0
4 fn4 0 4 43 w 1 a3 h 5 1s 1q 1 0 1c 5 w f 4 l 1 5 18 0 1 i5 0 5 1q 24 5 3 g 5 2k 0 4 6a 0 4 0
q 3 3e 4 4 w5 7v 1 3 0 5 0 68 1 0 e 4 0 11 1 2 7 4 0 4k 1 0 1 4 4 22 1 3 6 5 0 df 1 0 3 4 8 9
2 6 f 1 p 4 4 0 x 1 5s u 2 1 15 1 1 1 4 0 17 1 x 5 4 0 1x 1 0 a 4 0 1c 1 0 3 4 0 34 1 a 0 4 1i
e 4 b j 5 a 0 4 2 1 4 a 2 4 1d 3 4 2 1 4 7 0 4 1p 2 4 10 4 4 1 7 4 1q 0 4 c 1 4 1g 8 4 a 3 4 2
0 4 2n 2 4 2 0 4 1 1 4 6 0 4 2 0 4 4d 0 4 3 7 4 l 1 4 1l 1 4 3 0 4 11 e 4 1y 5 4 d 0 4 1 0 4 1
0 4 e 1 4 2d 7 4 2 2 4 1 0 4 n 0 4 2c 5 4 1 0 4 4 1 4 1 1 4 6m 3 4 6 1 4 1 1 4 r 1 4 2d 7 4 2
0 4 1 1 4 v c 5 1q 0 4 1 0 4 2 5 4 1 0 4 2t 2 4 2 3 4 1 4 4 77 8 4 1 1 4 74 1 4 1 0 4 4 0 4 40
7 4 4 0 4 w 5 4 2 1 4 14 5 4 2 3 4 8 0 4 9 5 4 2 2 4 1a c 4 1 1 4 5i 0 4 1 2 4 1 0 4 5l d 4 2c
l 4 2 6 4 1 1 4 1 1 4 3e k 4 1 0 4 20 1 4 3 0 4 1 0 4 9n 1 4 b 1 4 1g 4 4 5 0 4 1 0 4 n 0 4 3e
s 5 40e 0 4 6 e 4 8ug b 4 3 2 4 1xc 4 4 1n 6 4 t4 0 4 1r 3 4 27 0 5 1 0 4 f5k 1 4 3mp 1y 4 f4
2 4 h 7 4 2 6 4 u 3 4 1n 2g 5 0 2 4 0 0 5 56 2e 5 1bd 1i 4 4 1d 4 8 0 4 e 0 4 m k 4 11s 3z 4
4g 6 4 af 0 4 1p 3 4 f 0 5 do 3 4 72 1 4 6r 0 4 2 0 4 7 1 4 5 0 4 7e 5r 1 0 6 4 23 x 1 0 6 4 0
s2 1 c2 fz 5 1p 2 5 1p 0 5 4y vr 5 4 4a 5 4 8m 5 26 9f 5 c 14 5 7 19 5 1 6 5 8 d 5 4 8 5 7 62
5
"

def directionOf (c : Char) : Direction :=
  match value? directions c.toNat with
  | Option.none => .left
  | some 1 => .right
  | some 2 => .arabicNumber
  | some 3 => .europeanNumber
  | some 4 => .mark
  | some 5 => .neutral
  | some _ => .none

/-- Does a label go one way? It starts with a letter of its way, has none of the other,
and ends with a letter or a number, marks aside. Numbers are of one kind from right to
left. -/
def goesOneWay (label : List Char) : Bool :=
  match label.map directionOf with
  | [] => true
  | d :: ds =>
    let ds := (ds.reverse.dropWhile (· = .mark)).reverse
    let only (allowed ends : List Direction) : Bool :=
      ds.all allowed.contains && ds.getLast?.all ends.contains
    match d with
    | .left => only [.left, .europeanNumber, .neutral, .mark] [.left, .europeanNumber]
    | .right =>
      only [.right, .arabicNumber, .europeanNumber, .neutral, .mark]
        [.right, .arabicNumber, .europeanNumber] &&
      !(ds.contains .arabicNumber && ds.contains .europeanNumber)
    | _ => false

/-- May the labels be those of one domain? -/
def directionsFit (labels : List (List Char)) : Bool :=
  let isTurned (c : Char) : Bool := [.right, .arabicNumber].contains (directionOf c)
  if labels.any (·.any isTurned) then labels.all goesOneWay else true

end KernelHub.Url.Idna
