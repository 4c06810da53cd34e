import KernelHub.Text.Packed

/-
The composed form of a text: letters and their marks are taken apart, the marks of one
letter are put in the order of their classes, and what has a character of its own is put
together again. Only characters that a domain keeps are told apart.
-/

namespace KernelHub.Url.Idna.Composition

open Text.Packed

/-- The classes of marks. -/
def classes : List Run := runs "
lc k 6e 0 0 6g 0 3 64 0 0 6g 0 0 60 0 4 64 0 1 5m 0 3 64 0 1 5m 0 a 64 0 4 1 0 3 64 0 9 6e 0 2
64 0 2 6e 0 1 64 1 2 6e 0 3 64 0 0 6e 0 0 6g 0 1 64 0 0 6e 0 0 6h 0 1 6i 0 0 6h 0 1 6i 0 0 6h
0 c 6e 7n 4 6e 7d 0 64 0 3 6e 0 0 64 0 2 6e 0 0 66 0 0 64 0 5 6e 0 5 64 0 1 6e 0 0 64 0 1 6e 0
0 66 0 0 6c 0 0 6e 0 0 a 0 0 b 0 0 c 0 0 d 0 0 e 0 0 f 0 0 g 0 0 h 0 0 i 0 1 j 0 0 k 0 0 l 0 0
m 1 0 n 1 0 o 0 0 p 1 0 6e 0 0 64 1 0 i 20 7 6e 0 0 u 0 0 v 0 0 w 1c 0 r 0 0 s 0 0 t 0 0 u 0 0
v 0 0 w 0 0 x 0 0 y 0 1 6e 0 1 64 0 4 6e 0 0 64 0 1 6e 0 0 64 g 0 z 2t 6 6e 2 3 6e 0 0 64 0 0
6e 2 1 6e 1 0 64 0 1 6e 0 0 64 z 0 10 u 0 6e 0 0 64 0 1 6e 0 0 64 0 1 6e 0 2 64 0 0 6e 0 1 64
0 0 6e 0 0 64 0 2 6e 0 0 64 0 0 6e 0 0 64 0 0 6e 0 0 64 0 0 6e 0 0 64 0 1 6e 4g 6 6e 0 0 64 0
0 6e 9 0 64 o 3 6e 1 8 6e 1 2 6e 1 4 6e 17 2 64 1n 1 6e 0 2 64 0 3 6e 16 4 6e 0 4 64 0 d 6e 1
0 64 0 1 6e 0 0 64 0 1 6e 0 0 64 0 2 6e 0 2 64 0 0 r 0 0 s 0 0 t 0 2 6e 0 0 64 0 1 6e 0 1 64 0
4 6e 1o 0 7 g 0 9 3 0 6e 0 0 64 0 1 6e 2v 0 7 g 0 9 1c 0 6e 1p 0 7 g 0 9 32 0 7 g 0 9 32 0 7 g
0 9 3j 0 9 32 0 7 g 0 9 7 0 2c 0 0 2j 2t 0 7 g 0 9 31 1 9 g 0 9 3g 0 9 31 1 2v 0 0 9 d 3 2z 30
1 3a 0 0 9 d 3 3e 24 1 64 r 0 64 1 0 64 1 0 60 1j 0 3l 0 0 3m 1 0 3o 5 3 3m 2 0 3m 1 1 6e 0 0
9 1 1 6e 1q 0 64 34 0 7 1 1 9 2a 0 64 jz 2 6e qc 1 9 u 0 9 4d 0 9 a 0 6e 5n 0 6c 3z 0 66 0 0
6e 0 0 64 63 0 6e 0 0 64 1z 0 9 k 7 6e 2 0 64 1c 4 6e 0 5 64 0 1 6e 0 0 64 1 1 64 0 1 6e 0 1
64 0 4 6e 0 0 64 0 h 6e 0 0 64 2 5 6e 0 0 64 0 3 6e 0 0 6i 20 0 7 f 0 9 12 0 6e 0 0 64 0 6 6e
1i 1 9 1m 0 7 b 1 9 1v 0 7 48 2 6e 1 0 1 0 4 64 0 1 6e 0 3 64 0 0 6e 1 6 1 4 0 64 6 0 6e 3 1
6e 5i 1 6e 0 0 64 0 6 6e 0 0 64 0 1 6e 0 0 6i 0 0 5y 0 0 64 0 0 5m 0 10 6e 0 0 6g 0 1 6c 0 0
64 0 0 62 0 0 6e 0 0 6h 0 0 64 0 0 6e 0 0 64 k0 1 6e 0 1 1 0 3 6e 0 2 1 0 1 6e 4 0 6e 3 1 1 0
0 6e 0 0 64 0 0 6e 0 1 1 0 3 64 0 0 6e 2da 2 6e 3x 0 9 2o v 6e fe 0 62 0 0 6c 0 0 6g 0 0 66 0
1 68 2x 1 8 n9w 0 6e 4 9 6e w 1 6e 28 1 6e 7o 0 9 11 0 9 47 0 9 r h 6e 1l 2 64 11 0 9 2n 0 7 c
0 9 6n 0 6e 1 1 6e 0 0 64 2 1 6e 5 1 6e 1 0 6e 1g 0 9 6u 0 9 fn4 0 q ld 6 6e 0 6 64 0 1 6e r1
0 64 6a 0 64 45 4 6e 1aq 0 64 1 0 6e 14 0 6e 0 0 1 0 0 64 4 0 9 4l 0 6e 0 0 64 fx 3 6e 1t 4 6e
8t 1 6e 25 1 64 1 2 64 1y 1 64 0 2 6e 0 0 64 0 0 6e 0 3 64 1d 0 6e 0 0 64 0 0 6e 0 0 64 5c 0 9
15 0 9 e 0 9 1l 0 9 0 0 7 1x 2 6e 1c 1 9 1q 0 7 24 0 9 9 0 7 2y 0 9 0 0 7 4y 0 7 0 0 9 28 1 7
g 0 9 o e 6e 2h 2 9 35 0 9 3 0 7 n 0 6e 2r 0 9 0 0 7 6z 0 9 0 0 7 3i 0 9 3a 0 9 0 0 7 37 0 9
7h 0 9 0 0 7 76 1 9 4 0 7 4c 0 9 2b 0 9 i 0 9 29 0 9 bp 0 9 76 0 7 1 1 9 29 0 9 bt 1 9 d0s 0 9
1xc 4 1 1n 6 6e xl 1 6 f58 0 1 43q 1 60 0 2 1 3 0 6a 0 4 60 8 7 64 2 4 6e 0 1 64 u 3 6e 44 2
6e 2pn 3z 6e 4g 6 6e af 0 6e 1p 3 6e e4 1 6g 0 0 64 0 0 6e 72 0 6e 0 0 64 6r 0 6e 2 0 6e 7 1
6e 5 0 6e d6 6 64 31 5 6e 0 0 7
"

/-- The class of a mark; other characters have class 0. -/
def classOf (n : Nat) : Nat := (value? classes n).getD 0

/-- A character that can be taken apart. -/
structure Pair where
  whole : Nat
  first : Nat
  second : Nat
deriving DecidableEq, Repr

def pairsFrom : Nat → List Nat → List Pair
  | start, gap :: a :: b :: ns => ⟨start + gap, a, b⟩ :: pairsFrom (start + gap + 1) ns
  | _, _ => []

/-- The characters that can be taken apart, upwards. -/
def pairs : List Pair := pairsFrom 0 (numbers "
68 2p lc 0 2p ld 0 2p le 0 2p lf 0 2p lk 0 2p lm 1 2r mf 0 2t lc 0 2t ld 0 2t le 0 2t lk 0 2x
lc 0 2x ld 0 2x le 0 2x lk 1 32 lf 0 33 lc 0 33 ld 0 33 le 0 33 lf 0 33 lk 2 39 lc 0 39 ld 0
39 le 0 39 lk 0 3d ld 1 3d lk 1 2p lg 1 2p li 1 2p mg 1 2r ld 1 2r le 1 2r lj 1 2r lo 1 2s lo
3 2t lg 1 2t li 1 2t lj 1 2t mg 1 2t lo 1 2v le 1 2v li 1 2v lj 1 2v mf 1 2w le 3 2x lf 1 2x
lg 1 2x li 1 2x mg 5 2y le 1 2z mf 2 30 ld 1 30 mf 1 30 lo 5 32 ld 1 32 mf 1 32 lo 4 33 lg 1
33 li 1 33 ln 3 36 ld 1 36 mf 1 36 lo 1 37 ld 1 37 le 1 37 mf 1 37 lo 1 38 mf 1 38 lo 3 39 lf
1 39 lg 1 39 li 1 39 lm 1 39 ln 1 39 mg 1 3b le 1 3d le 2 3e ld 1 3e lj 1 3e lo y 33 m3 e 39
m3 t 2p lo 1 2x lo 1 33 lo 1 39 lo 1 70 lg 1 70 ld 1 70 lo 1 70 lc 2 6c lg 1 fb lg 1 6e lg 3
2v lo 1 2z lo 1 33 mg 1 dn lg 1 ia lo 0 2y lo 4 2v ld 3 32 lc 1 6d ld 1 6e ld 1 6w ld 1 2p lr
1 2p lt 1 2t lr 1 2t lt 1 2x lr 1 2x lt 1 33 lr 1 33 lt 1 36 lr 1 36 lt 1 39 lr 1 39 lt 1 37
me 1 38 me 3 2w lo 7 2p lj 1 2t mf 1 6u lg 1 6t lg 1 33 lj 1 fj lg 1 3d lg 9o qy ld r q9 ld 0
qd ld 0 qf ld 0 qh ld 0 qz ld p qh lk 0 qt lk 0 qn ld 0 qt ld 0 qx ld 2y u0 li m tx lc 0 tx lk
1 tv ld 3 uu lk 4 u2 ld 0 u0 lc 0 ub li o vp lr 22 ty li e ts li 1 ts lk 3 tx li 3 yh lk 1 ty
lk 1 tz lk 3 u0 lg 1 u0 lk 1 u6 lk 3 yx lk 1 ul lk 1 ub lg 1 ub lk 1 ub ln 1 uf lk 3 uj lk 88
17r 18z 0 17r 190 0 18o 190 0 17r 191 0 18q 190 49 1cl 190 1 1c1 190 g 1ci 190 gl 1t4 1to 7
1tc 1to 2 1tf 1to 46 1xj 1xa 0 1xj 1xz aj 287 28m 2 287 27y 0 287 28n 1z 2aa 2c7 1h 2bq 2bi 0
2br 2bi 0 2bq 2c7 3f 2fa 2fq 3b 2in 2j9 6 2iu 2j9 0 2iu 2ja 1 2iu 2iq 0 2iy 2j9 3i 2me 2m6 0
2mf 2m6 0 2me 2mv 3x 2qh 2q2 1 2qh 2q7 0 2qk 2q2 0 2qh 2qn g7 36t 372 25b 5c5 5dh 1 5c7 5dh 1
5c9 5dh 1 5cb 5dh 1 5cd 5dh 3 5ch 5dh 14 5dm 5dh 1 5do 5dh 2 5dq 5dh 0 5dr 5dh 1 5du 5dh jh 2p
md 1 2q lj 1 2q mb 1 2q mp 1 6f ld 1 2s lj 1 2s mb 1 2s mp 1 2s mf 1 2s ml 1 7n lc 1 7n ld 1
2t ml 1 2t mo 1 fd li 1 2u lj 1 2v lg 1 2w lj 1 2w mb 1 2w lk 1 2w mf 1 2w mm 1 2x mo 1 6n ld
1 2z ld 1 2z mb 1 2z mp 1 30 mb 1 5yv lg 1 30 mp 1 30 ml 1 31 ld 1 31 lj 1 31 mb 1 32 lj 1 32
mb 1 32 mp 1 32 ml 1 6t ld 1 6t lk 1 99 lc 1 99 ld 1 34 ld 1 34 lj 1 36 lj 1 36 mb 1 5zv lg 1
36 mp 1 37 lj 1 37 mb 1 9n lj 1 9t lj 1 603 lj 1 38 lj 1 38 mb 1 38 mp 1 38 ml 1 39 mc 1 39 mo
1 39 ml 1 a1 ld 1 a3 lk 1 3a lf 1 3a mb 1 3b lc 1 3b ld 1 3b lk 1 3b lj 1 3b mb 1 3c lj 1 3c
lk 1 3d lj 1 3e le 1 3e mb 1 3e mp 0 2w mp 0 38 lk 0 3b lm 0 3d lm 7 2p mb 1 2p ll 1 6a ld 1
6a lc 1 6a ll 1 6a lf 1 61t le 1 77 ld 1 77 lc 1 77 ll 1 77 lf 1 61t li 1 2t mb 1 2t ll 1 2t
lf 1 6i ld 1 6i lc 1 6i ll 1 6i lf 1 62h le 1 2x ll 1 2x mb 1 33 mb 1 33 ll 1 6s ld 1 6s lc 1
6s ll 1 6s lf 1 631 le 1 bl ld 1 bl lc 1 bl ll 1 bl lf 1 bl mb 1 39 mb 1 39 ll 1 c0 ld 1 c0 lc
1 c0 ll 1 c0 lf 1 c0 mb 1 3d lc 1 3d mb 1 3d ll 1 3d lf 6 q9 lv 0 q9 lw 0 64g lc 0 64h lc 0
64g ld 0 64h ld 0 64g n6 0 64h n6 8 qd lv 0 qd lw 0 64w lc 0 64x lc 0 64w ld 0 64x ld a qf lv
0 qf lw 0 65c lc 0 65d lc 0 65c ld 0 65d ld 0 65c n6 0 65d n6 8 qh lv 0 qh lw 0 65s lc 0 65t
lc 0 65s ld 0 65t ld 0 65s n6 0 65t n6 8 qn lv 0 qn lw 0 668 lc 0 669 lc 0 668 ld 0 669 ld a
qt lv 0 qt lw 0 66o lc 0 66p lc 0 66o ld 0 66p ld 0 66o n6 0 66p n6 8 qx lv 0 qx lw 0 674 lc 0
675 lc 0 674 ld 0 675 ld 0 674 n6 0 675 n6 8 q9 lc 1 qd lc 1 qf lc 1 qh lc 1 qn lc 1 qt lc 1
qx lc 1f q9 li 0 q9 lg 4 q9 n6 f qf n6 9 qh li 0 qh lg 0 qy lc 3 qh n6 0 qy n6 8 qt li 0 qt lg
0 qz lc 1 qp lv 0 qp lw 0 qt n6 0 qz n6 e qx n6 bn 6mo mw 0 6mq mw i 6ms mw u 6og mw 0 6ok mw
0 6oi mw 1g 6pv mw 4 6q0 mw 2 6q3 mw n 6qr mw 1 6qt mw q 6rg mw 2 6rn mw 2 6rp mw 1 6rs mw m
1p mw 1 6sh mw a 6rx mw 0 1o mw 0 1q mw 0 6sk mw 0 6sl mw 2 6sy mw 0 6sz mw 2 6t2 mw 0 6t3 mw
6 6t6 mw 0 6t7 mw 2 6te mw 0 6tf mw 2 6ti mw 0 6tj mw y 6ua mw 0 6ug mw 0 6uh mw 0 6uj mw 1c
6t8 mw 0 6t9 mw 0 6tt mw 0 6tu mw 6 6uq mw 0 6ur mw 0 6us mw 0 6ut mw 2n2 9jf 9ll 1 9jh 9ll 1
9jj 9ll 1 9jl 9ll 1 9jn 9ll 1 9jp 9ll 1 9jr 9ll 1 9jt 9ll 1 9jv 9ll 1 9jx 9ll 1 9jz 9ll 1 9k1
9ll 2 9k4 9ll 1 9k6 9ll 1 9k8 9ll 6 9kf 9ll 0 9kf 9lm 1 9ki 9ll 0 9ki 9lm 1 9kl 9ll 0 9kl 9lm
1 9ko 9ll 0 9ko 9lm 1 9kr 9ll 0 9kr 9lm m 9ja 9ll 9 9lp 9ll d 9m3 9ll 1 9m5 9ll 1 9m7 9ll 1
9m9 9ll 1 9mb 9ll 1 9md 9ll 1 9mf 9ll 1 9mh 9ll 1 9mj 9ll 1 9ml 9ll 1 9mn 9ll 1 9mp 9ll 2 9ms
9ll 1 9mu 9ll 1 9mw 9ll 6 9n3 9ll 0 9n3 9lm 1 9n6 9ll 0 9n6 9lm 1 9n9 9ll 0 9n9 9lm 1 9nc 9ll
0 9nc 9lm 1 9nf 9ll 0 9nf 9lm m 9ly 9ll 2 9nz 9ll 0 9o0 9ll 0 9o1 9ll 0 9o2 9ll 3 9od 9ll 1616
1fpu lj q 1fq2 lj 245 1huh 1hve 1 1huj 1hve e 1hut 1hve 3m 1hyp 1hyf 0 1hyq 1hyf ez 1idj 1ida
0 1idj 1idz 1i 1if6 1ih5 1 1if8 1igr 8 1iff 1igy 2 1ifk 1ih5 1f 1igy 1igy 1 1igy 1igo 0 1igy
1ih5 6q 1int 1inu 0 1int 1ink 1 1int 1inx 6z 1iuw 1iun 0 1iux 1iun os 1jjp 1jjk e7c 1xr2 1xr2
0 1xr2 1xrd 0 1xr2 1xr3 0 1xrd 1xr3 0 1xr2 1xr4 0 1xr5 1xr3 0 1xr6 1xr3 0 1xr5 1xr4 2f3 206f
206f 0 206b 206f 0 206h 206f
")

/-! ## Syllables of two or three letters -/

def syllables : Nat := 0xAC00
def leads : Nat := 0x1100
def vowels : Nat := 0x1161

/-- One before the first of the last letters. -/
def tails : Nat := 0x11A7

def isSyllable (n : Nat) : Bool := syllables ≤ n && n < syllables + 19 * 21 * 28

/-- The two parts of a syllable. -/
def syllableParts (n : Nat) : Nat × Nat :=
  let k := n - syllables
  if k % 28 = 0 then (leads + k / 588, vowels + k % 588 / 28) else (n - k % 28, tails + k % 28)

/-- The syllable that two parts make. -/
def syllable? (a b : Nat) : Option Nat :=
  if leads ≤ a ∧ a < leads + 19 ∧ vowels ≤ b ∧ b < vowels + 21 then
    some (syllables + ((a - leads) * 21 + (b - vowels)) * 28)
  else if isSyllable a ∧ (a - syllables) % 28 = 0 ∧ tails < b ∧ b < tails + 28 then
    some (a + (b - tails))
  else none

/-! ## Taking apart and putting together -/

def parts? (n : Nat) : Option (Nat × Nat) :=
  if isSyllable n then some (syllableParts n)
  else (pairs.find? (·.whole = n)).map fun p => (p.first, p.second)

def whole? (a b : Nat) : Option Nat :=
  match syllable? a b with
  | some n => some n
  | none => (pairs.find? fun p => p.first = a ∧ p.second = b).map (·.whole)

/-- A character taken apart, in so many steps at most. -/
def takeApart : Nat → Nat → List Nat
  | 0, n => [n]
  | steps + 1, n =>
    match parts? n with
    | some (a, b) => takeApart steps a ++ [b]
    | none => [n]

/-- More steps than any character takes to come apart. -/
def enough : Nat := 8

/-- Puts a character at the end of a text, which is given backwards: a mark goes before
the marks of higher classes. -/
def settle (n : Nat) : List Nat → List Nat
  | m :: ms => if classOf n ≠ 0 ∧ classOf n < classOf m then m :: settle n ms else n :: m :: ms
  | [] => [n]

/-- The text taken apart, its marks in order. -/
def apart (cs : List Char) : List Nat :=
  ((cs.flatMap fun c => takeApart enough c.toNat).foldl (fun done n => settle n done) []).reverse

/-- A text that is being put together: what is done, the last letter, and the marks after
it, each backwards. -/
structure Progress where
  done : List Nat := []
  letter : Option Nat := none
  marks : List Nat := []

/-- Adds a character. It joins the letter, unless a mark of its class or above, or any mark
at all if it is none itself, stands between. -/
def add (p : Progress) (n : Nat) : Progress :=
  match p.letter with
  | none => if classOf n = 0 then { p with letter := some n } else { p with done := n :: p.done }
  | some a =>
    let isFree := p.marks.head?.all fun m => classOf m < classOf n
    match if isFree then whole? a n else none with
    | some w => { p with letter := some w }
    | none =>
      if classOf n = 0 then ⟨p.marks ++ a :: p.done, some n, []⟩
      else { p with marks := n :: p.marks }

/-- The composed form. -/
def compose (cs : List Char) : List Char :=
  let p := (apart cs).foldl add {}
  ((p.marks ++ p.letter.toList ++ p.done).reverse).map Char.ofNat

end KernelHub.Url.Idna.Composition
