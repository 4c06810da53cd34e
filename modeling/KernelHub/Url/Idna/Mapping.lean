import KernelHub.Url.Idna.Spelling

/-
What becomes of a character in a domain: it is kept, left out, written with others, or
not allowed at all. Upper case is written in lower case.
-/

namespace KernelHub.Url.Idna

open Text.Packed

/-- Characters that are written with others a fixed way off. -/
structure Stretch where
  first : Nat
  last : Nat
  /-- Only every so many characters are meant. -/
  step : Nat
  /-- What the first one is written with. -/
  target : Nat
deriving DecidableEq, Repr

def stretchesFrom : Nat → List Nat → List Stretch
  | start, gap :: length :: step :: target :: ns =>
    let first := start + gap
    ⟨first, first + length, step, target⟩ :: stretchesFrom (first + length + 1) ns
  | _, _ => []

/-- The stretches, upwards. -/
def stretches : List Stretch := stretchesFrom 0 (numbers "
5c m 1 68 1 6 1 6w x 1a 2 75 a 4 2 8q 3 6 2 8y 2 18 2 97 2 4 2 ai y 4 2 bl 14 e 2 cu 2 g 2 db
9 12 2 e1 3 g 2 f7 j 8 2 g7 8p 2 1 q5 6 g 1 q9 1 8 1 qr 18 m 2 rd e 2 1 or 0 f 1 uo 0 v 1 ts
1c w 2 v5 9 1g 2 wb 2 c 2 xu 2 2m 2 y9 2 11 1 129 289 11 1 8w0 mq 5 1 3xs 1oy 16 1 3bk 2 2 1
3ct 37 7 1 2v y 2 1 qa 1w 2 1 h4 7 3 1 he a 2 1 i8 1t 44 2 5xd b 2m 2 61t 9 7 1 64g 8 5 1 64w
a 7 1 65c 8 7 1 65s 8 5 1 668 b 6 2 66p 8 7 1 674 78 5 1 1g 6 9 1 1c c 3 1 2z 3j 2 1 34 p 3 1
15c mf 8 1 1d 25 p 1 2p 0 p 1 2p 1ee 1b 1 8q8 1j 4 2 8rs k 2q 2 8sh us 2 1 3cz 0 5 1 3hs 1 2 1
3d2 1 9 1 3d5 0 k 1 3fl k 4 1 3e3 7 2 1 3fb 64 2 1 3d1 3 4 1 3da 3a 5 1 9my 4 4 1 9ni 2 5 1
9ns 0 3 1 9nz mrl 18 2 wu9 j q 2 ww1 3r c 2 x0j 3 1o 2 x0z f 8 2 x33 f i 2 x3r b e 2 x4l 9 e 2
x59 ph 27 1 3vk fok 2 1 15n m2 3 1 9ho 58 v 1 x 0 p 1 2p 0 z 1 2j 12 5 1 9my 4 4 1 9ni 2 5 1
9ns b 2 1 3cz 0 5 1 3hs 1 2 1 3d2 1 9 1 3d5 3 5 1 3fl 2 5 1 3fr 2 5 1 3fx 2 2 1 3g3 c 3 1 6mo
sz 13 1 1fe0 3s z 1 1fiw 4c a 1 1fo7 1 e 1 1foj 1 6 1 1foz f7 2 1 cg xz 1e 1 1h34 4d l 1 1h80
27u v 1 1jgg gw0 v 1 20dc 1s o 1 20fv il9 p 1 2p 0 9 1 1c 1dy p 1 2p 0 p 1 2p 0 p 1 2p 0 6 1
2p 1 h 1 2x 0 p 1 2p 0 p 1 2p d 3 1 32 1 7 1 37 0 3 1 2p 4 5 1 2x 1 a 1 34 0 p 1 2p 0 p 1 2p 3
3 1 2s 2 7 1 2y 1 6 1 37 1 p 1 2p 3 3 1 2s 1 4 1 2x 5 6 1 37 1 p 1 2p 0 p 1 2p 0 p 1 2p 0 p 1
2p 0 p 1 2p 0 p 1 2p 0 p 1 2p 0 p 1 2p 0 p 1 2p 0 p 1 2p 0 p 1 2p 0 p 1 2p 0 p 1 2p 4 g 1 q9 1
6 1 qr 1 g 1 q9 1 6 1 qr 7 g 1 q9 1 6 1 qr 1 g 1 q9 1 6 1 qr 7 g 1 q9 1 6 1 qr 1 g 1 q9 1 6 1
qr 7 g 1 q9 1 6 1 qr 1 g 1 q9 1 6 1 qr 7 g 1 q9 1 6 1 qr 1 g 1 q9 1 6 1 qr b 9 1 1c 0 9 1 1c 0
9 1 1c 0 9 1 1c 0 9 1 1c 1m8 8 1 ts 0 2 1 u2 0 a 1 u6 a 8 1 ts 5 5 1 ub 1p7 x 1 2oma yw 3 1
18j s 3 1 18j 2l 2 1 18k t 2 1 18k hu p 1 2p 23q 9 1 1c
")

/-- Characters that are kept, unless they are written with others or left out. -/
def kept : List Run := plainRuns "
0 3j x k6 3 2 i 0 r ar 15 1d 2 2 1 1i 8 q 4 5 h l 1 5b 1 1b 2 1m 2 2s e 1m 2 1c 2 e 1 r 2 0 1
a 5 v 7 22 1 4g 1 7 2 1 2 l 1 6 1 0 3 3 2 8 2 1 2 3 8 0 8 3 2 o 2 2 1 5 4 1 2 l 1 6 1 0 2 0 2
1 2 0 1 4 4 1 2 2 3 0 a 0 9 g a 2 1 8 1 2 1 l 1 6 1 1 1 4 2 9 1 2 1 2 2 0 f 3 2 b 7 6 1 2 1 7
2 1 2 l 1 6 1 1 1 4 2 8 2 1 2 2 7 2 7 4 2 h a 1 1 5 3 2 1 3 3 1 1 0 1 1 3 1 3 2 3 b 4 4 3 2 1
3 2 0 6 0 e k 5 c 1 2 1 m 1 f 2 8 1 2 1 3 7 1 1 2 1 1 2 3 2 9 7 l 1 2 1 m 1 9 1 4 2 8 1 2 1 3
7 1 5 2 1 3 2 9 1 2 c c 1 2 1 1e 1 2 1 5 4 f 2 p 1 2 1 h 3 n 1 8 1 0 2 6 3 0 4 5 1 0 1 7 6 9 2
2 c 1l 4 s 11 1 1 0 1 4 1 n 1 0 1 m 2 4 1 0 1 6 1 9 4 1 w 1z 1 z 4 12 1 z 1 e 1 c 11 4f 1c ag
1 3 2 6 1 0 1 3 2 14 1 3 2 w 1 3 2 6 1 0 1 3 2 e 1 1k 1 3 2 1u 2 v 3 p 6 2d a hr 1 r 3 2g 7 l
9 n 9 j c c 1 2 1 1 c 2l 2 9 6 9 6 p 6 2g 7 16 5 1x a u 1 b 4 b 4 0 3 15 2 4 b 17 4 p 6 a 3 1p
2 1s 1 s 2 a 6 9 6 d 2 19 2 b k 24 1 4l 8 1n 3 e 3 1p 1h 7 8 16 5 et a 11 a 7 8 s 1f 1 4 0 f c
3 1 8 7 e 0 l 1 2 j 3 0 8 1a 1t x e w j 3r 4 ih m a 4g 1ag 2 al 5 18 1 0 5 0 2 1j 8 0 e n 9 6
1 6 1 6 1 6 1 6 1 6 1 6 1 6 1 3h y p 1 2f 7i 1q 1 2d 2 2t 6 16 2o 2d a f 20 1j ao m8c 3 1i 9
9n l 52 8 63 q 1i 3 9 6 1j 8 1x 8 b 6 37 b t 3 25 1 a 4 w 1 1i 9 d 2 9 2 2u o r a 5 2 5 2 5 9
6 1 6 1 1n 2c 19 2 9 6 8mb c m 4 1c 6qa r 6s 0 43 f1 19 2 w f l 1 18 0 b0 b 1 p 1 i 1 1 1 e 2
d y 3e 5 2 4 18 3 2f 1 c 3 0 1b 19 3m s 3 1c f r 4 z 9 t 5 16 5 t 1 10 4 d 2a 39 2 9 1a z 4 13
8 1f b 0 13 a 1 e 1 6 1 1 3 1f c 8m 9 l a 7 o 0 3j 5 2 0 1 17 1 1 3 0 2 m 1 1z 8 8 1c i 1 1 5
w 3 q 5 q 12 1j 4 j 2 1d 1 1 5 7 1 2 1 s 2 2 4 9 7 8 7 1r w 12 4 b 9 1h 3 s 2 q 5 p 7 3 c 6 28
20 3b 1e 7 19 8 9 6 f p s 8 1 5s u 1 15 1 2 2 1 g 5 8 8 x 19 8 15 m p 12 r k m 9 25 4 z 9 1p 1
4 d o 7 9 6 1g 1 h 8 12 9 2n 1 j b h 1 1a 1q 6 1 0 1 3 1 e 1 a 6 1m 5 9 6 3 1 7 2 1 2 l 1 6 1
1 1 4 1 9 2 1 2 2 2 0 6 0 5 6 2 6 3 4 b 9 1 0 2 0 1 11 1 9 1 0 2 0 1 3 1 9 1 1 8 1 t 2j 1 4 u
1z 8 9 4m 1h 2 11 y 1w b 9 6 c j 1l 6 9 6 j s q 2 e 4 m 55 1n 3o 1e c 7 2 0 2 7 1 1 1 t 1 1 2
b 9 9 1y 7 2 19 2 a r 1z 8 2a d 20 7 9 2e 7 2g x e 9 6 8 1 18 1 d a s 3 v 2 l 1 d 21 6 1 1 1
17 3 0 1 1 1 8 8 9 6 5 1 1 1 10 1 1 1 5 7 9 6 17 4 9 6u o 7 g 1 14 3 s 2d 0 f 1d d pm 2u 32 1
4 b 5f 218 2q d tr g l a 32y 5 g6 5a1 1l 1c6 fs 7 u 1 9 4 28 1 9 6 t 2 5 a 1x a 9 1 6 1 k 5 i
c0 1l 6e 1m w o 18 22 4 1k 7 g 1s 4 b 6 9 5p1 15 v 2p 36 6pp 3 1 6 1 1 1 82 f 0 t 2 2 0 e 3 8
az 1s4 2y 5 c 3 8 7 9 2 3 31c 70 3 c3 6 m f g f 19 2 m 9 37 1o 6t a 12 2 5d l 1x 3e j c j c 2e
9 o w7 i3 f 4 1 e uo u 6 5 5x 6 1 g 2 6 1 1 1 4 2s 0 34 18 3 d 2 9 4 1 8w u h 1l 5 0 cw 15 5y
16 4 0 5c u 1 l 8 1 68 6 1 3 1 1 1 e 1 5g 2 f 23 15 4 9 4 1 lt 1v 24 1o c2 1 7i 17 4 2r c e 2
e 1 e 1 10 l 4i 1k p 2o 5 4a rc 3 g 3 c 3 61 6 b 4 0 f b 4 1j 8 9 6 13 8 t 2 b 4 1 e 8 13 9j 8
d 2 c 3 a 3 1k 1 0 4 f 2 b 4 9 7 42 1 2u sl wyn w 3dp 2 4gd 2 5rk f h9 3he 3t6 5 6jt
"

/-- Characters that are left out. -/
def leftOut (n : Nat) : Bool :=
  [0xAD, 0x34F, 0x200B, 0x3164, 0xFEFF, 0xFFA0].contains n ||
    [(0x115F, 0x1160), (0x17B4, 0x17B5), (0x180B, 0x180F), (0x2060, 0x2064), (0x206A, 0x206F),
      (0xFE00, 0xFE0F), (0x1BCA0, 0x1BCA3), (0x1D173, 0x1D17A), (0xE0100, 0xE01EF)].any fun r =>
      r.1 ≤ n && n ≤ r.2

/-- What a character of a stretch is written with. -/
def stretched? (n : Nat) : Option Nat :=
  (stretches.find? fun s => s.first ≤ n ∧ n ≤ s.last ∧ (n - s.first) % s.step = 0).map fun s =>
    s.target + (n - s.first)

/-- What becomes of a character, if it is allowed. -/
def map? (c : Char) : Option (List Char) :=
  let n := c.toNat
  if n < 128 then some [c.toLower]
  else
    match spellings.lookup n, stretched? n with
    | some ns, _ => some (ns.map Char.ofNat)
    | none, some m => some [Char.ofNat m]
    | none, none => if leftOut n then some [] else if has kept c then some [c] else none

def mapAll? (cs : List Char) : Option (List Char) := (cs.mapM map?).map List.flatten

/-- Does a character stay as it is? -/
def isKept (c : Char) : Bool := map? c = some [c]

end KernelHub.Url.Idna
