import KernelHub.Text.Packed

/-
Characters that are spelled with others in a domain: compatibility forms, ligatures and
letters whose lower case is not a fixed way off.
-/

namespace KernelHub.Url.Idna

open Text.Packed

/-- An entry has the gap to the one before and the characters of the spelling. -/
def spellingsFrom : Nat → List (List Nat) → List (Nat × List Nat)
  | start, (gap :: ns) :: more => (start + gap, ns) :: spellingsFrom (start + gap + 1) more
  | _, _ => []

/-- The characters that are spelled with others, upwards. -/
def spellings : List (Nat × List Nat) := spellingsFrom 0 (("
4g w,7 w lk,1 2p,4 w lg,2 1e,0 1f,0 w ld,0 qk,2 w mf,0 1d,0 33,1 1d 6dg 1g,0 1d 6dg 1e,
0 1f 6dg 1g,35 2x lj,1 2x 2y,0 2x 2y,0 8l,1 8n,8 30 53,0 30 53,8 jg 32,1a 73,6 37,1 gj,0 ar,
1 at,1 gk,0 aw,1 gm,0 gn,0 b0,2 d9,0 gp,0 gr,0 b6,1 gw,0 gz,1 h5,0 h4,0 bd,3 hb,0 he,1 hh,6 hs,
0 bs,1 hv,2 bx,1 i0,0 c0,1 i2,0 i3,0 c4,1 c6,1 ia,0 c9,3 cd,7 2s am,0 2s am,0 2s am,0 30 2y,
0 30 2y,0 30 2y,0 32 2y,0 32 2y,0 32 2y,10 2s 3e,0 2s 3e,0 2s 3e,0 dx,1 b9,0 cf,14 bi,p 8rp,
0 fw,1 be,0 8rq,2 g2,1 ao,0 i1,0 i4,2y 2w,0 h2,0 2y,0 36,0 hl,0 hn,0 ht,0 3b,0 3d,v w li,0 w lj,
0 w lm,0 w mg,0 w lf,0 w ln,2 gz,0 30,0 37,0 3c,0 id,2j lc,0 ld,1 lv,0 lk ld,0 qh,16 oh,1 oj,
1 jd,1 on,3 w qh,3 1n,0 s3,4 w ld,0 w lk ld,0 q4,0 53,4 r0,1 r1,0 r2,1r rb,0 qa,0 qg,0 qt,0 r1,
0 qz,0 qu,0 qo,p qi,0 qp,0 qr,1 qg,0 qd,1 s8,1 qr,0 sb,5h y7,5i 12d 136,6l 17r 19w,0 18o 19w,
0 1c7 19w,0 18q 19w,kf 1sl 1to,0 1sm 1to,0 1sn 1to,0 1ss 1to,0 1sx 1to,0 1sy 1to,0 1t7 1to,
0 1tb 1to,3g 1wh 1x8,0 1wi 1x8,1 1wv 1x8,2b 20i 20s,2 20o 20s,y 1zq 20s,0 1zr 20s,0 1zw 20s,
2 20b 20s,71 275 27w,0 276 27w,k5 2tp 2sy,3j 2x9 2wi,14 2wb 2vt,0 2wb 2w1,1a 2yz,1i 30i 33r,
9 30s 33r,4 30x 33r,4 312 33r,4 317 33r,c 30g 33p,9 31t 31u,1 31t 31w,0 33m 328,0 33m 31t 328,
0 33n 328,0 33n 31t 328,7 31t 328,h 32q 33r,9 330 33r,4 335 33r,4 33a 33r,4 33f 33r,c 32o 33p,
7h 8x3,5 8x9,1a 3bw,29v tu,0 tw,0 u6,0 u9,0 ua,0 ua,0 ui,0 v7,0 wuj,0 5my,4i 2p,0 6e,0 2q,1 2s,
0 2t,0 d9,9 33,0 f7,0 34,0 36,0 38,0 39,0 3b,0 2p,0 gg,0 gh,0 5qa,0 2q,0 2s,0 2t,0 gp,0 gr,0 gs,
0 2v,1 2z,0 31,0 97,0 33,0 gk,0 5qu,0 5qv,0 34,0 38,0 39,0 5r1,0 hb,0 3a,0 5r9,3 qu,0 qv,0 2x,
0 36,0 39,0 3a,0 qa,0 qb,0 qp,0 qu,0 qv,d u5,y gi,0 2r,0 gl,0 6o,0 gs,0 2u,0 gv,0 gx,0 h1,3 5tn,
0 il,0 h9,0 5tx,0 in,0 hd,0 hc,4 hk,0 hu,0 hv,0 bv,0 i1,0 i2,0 5r0,0 i3,0 i4,0 3e,3 qg,62 2p ji,
0 601,2 67,5u q4,1 q5,1 q6,1 q7,1 r0,1 r1,1 r2,2 64g qh,0 64h qh,0 64i qh,0 64j qh,0 64k qh,
0 64l qh,0 64m qh,0 64n qh,0 64g qh,0 64h qh,0 64i qh,0 64j qh,0 64k qh,0 64l qh,0 64m qh,
0 64n qh,0 65c qh,0 65d qh,0 65e qh,0 65f qh,0 65g qh,0 65h qh,0 65i qh,0 65j qh,0 65c qh,
0 65d qh,0 65e qh,0 65f qh,0 65g qh,0 65h qh,0 65i qh,0 65j qh,0 674 qh,0 675 qh,0 676 qh,
0 677 qh,0 678 qh,0 679 qh,0 67a qh,0 67b qh,0 674 qh,0 675 qh,0 676 qh,0 677 qh,0 678 qh,
0 679 qh,0 67a qh,0 67b qh,2 67k qh,0 q9 qh,0 q4 qh,2 69i qh,0 69c,0 69d,0 67k,0 q4,0 q9 qh,
0 w lv,0 qh,0 w lv,0 w n6,0 w lk n6,0 67o qh,0 qf qh,0 q6 qh,2 69y qh,0 67m,0 q5,0 67o,0 q6,
0 qf qh,0 w lv lc,0 w lv ld,0 w lv n6,3 pc,4 6a8,0 6a9,0 67q,0 q7,1 w lw lc,0 w lw ld,0 w lw n6,
3 q8,4 6ao,0 6ap,0 67u,0 r1,0 6at,0 w lk lc,0 w lk ld,0 2o,2 67w qh,0 qx qh,0 r2 qh,2 6ba qh,
0 67s,0 r0,0 67w,0 r2,0 qx qh,0 w ld,0 w lw,1 w,0 w,0 w,0 w,0 w,0 w,0 w,0 w,0 w,0 w,0 w,6 6c0,
5 w mr,n w,3 6cy 6cy,0 6cy 6cy 6cy,1 6d1 6d1,0 6d1 6d1 6d1,4 x x,1 w lh,8 1r 1r,0 1r x,0 x 1r,
d 6cy 6cy 6cy 6cy,7 w,g 1c,0 2x,8 17,0 6qa,0 1p,0 14,0 15,0 32,a 17,0 6qa,0 1p,0 14,0 15,1 2p,
0 2t,0 33,0 3c,0 gp,0 2w,4 34,0 37,0 38,b 36 37,2f 2p 1b 2r,0 2p 1b 37,0 2r,0 4w 2r,1 2r 1b 33,
0 2r 1b 39,0 gr,1 4w 2u,0 2v,0 2w,0 2w,0 2w,0 2w,0 87,0 2x,0 2x,0 30,0 30,1 32,0 32 33,5 36,
0 36,2 37 31,0 38 2t 30,0 38 31,1 3e,1 qx,1 3e,1 2z,0 6d,0 2q,0 2r,1 2t,0 2t,0 2u,0 6ku,0 31,
0 33,4 2x,1 2u 2p 3c,0 qo,0 qb,0 qb,0 qo,0 6q9,4 2s,0 2s,0 2t,0 2x,0 2y,6 1d 6dg 1j,0 1d 6dg 1l,
0 1d 6dg 1d 1c,0 1d 6dg 1f,0 1e 6dg 1f,0 1d 6dg 1h,0 1e 6dg 1h,0 1f 6dg 1h,0 1g 6dg 1h,
0 1d 6dg 1i,0 1h 6dg 1i,0 1d 6dg 1k,0 1f 6dg 1k,0 1h 6dg 1k,0 1j 6dg 1k,0 1d 6dg,0 2x,0 2x 2x,
0 2x 2x 2x,0 2x 3a,0 3a,0 3a 2x,0 3a 2x 2x,0 3a 2x 2x 2x,0 2x 3c,0 3c,0 3c 2x,0 3c 2x 2x,0 30,
0 2r,0 2s,0 31,0 2x,0 2x 2x,0 2x 2x 2x,0 2x 3a,0 3a,0 3a 2x,0 3a 2x 2x,0 3a 2x 2x 2x,0 2x 3c,
0 3c,0 3c 2x,0 3c 2x 2x,0 30,0 2r,0 2s,0 31,3 6mc,5 1c 6dg 1f,4i 6qz 6qz,0 6qz 6qz 6qz,
1 6r2 6r2,0 6r2 6r2 6r2,6w 9hk,0 9hl,8u 1d 1c,0 1d 1d,0 1d 1e,0 1d 1f,0 1d 1g,0 1d 1h,0 1d 1i,
0 1d 1j,0 1d 1k,0 1d 1l,0 1e 1c,0 14 1d 15,0 14 1e 15,0 14 1f 15,0 14 1g 15,0 14 1h 15,
0 14 1i 15,0 14 1j 15,0 14 1k 15,0 14 1l 15,0 14 1d 1c 15,0 14 1d 1d 15,0 14 1d 1e 15,
0 14 1d 1f 15,0 14 1d 1g 15,0 14 1d 1h 15,0 14 1d 1i 15,0 14 1d 1j 15,0 14 1d 1k 15,
0 14 1d 1l 15,0 14 1e 1c 15,k 14 2p 15,0 14 2q 15,0 14 2r 15,0 14 2s 15,0 14 2t 15,0 14 2u 15,
0 14 2v 15,0 14 2w 15,0 14 2x 15,0 14 2y 15,0 14 2z 15,0 14 30 15,0 14 31 15,0 14 32 15,
0 14 33 15,0 14 34 15,0 14 35 15,0 14 36 15,0 14 37 15,0 14 38 15,0 14 39 15,0 14 3a 15,
0 14 3b 15,0 14 3c 15,0 14 3d 15,0 14 3e 15,1g 1c,10h 6qz 6qz 6qz 6qz,2v 1m 1m 1p,0 1p 1p,
0 1p 1p 1p,2t 8gt mw,ar 8rl,1 h7,0 5tp,0 hp,8 gh,0 hd,0 gg,0 gi,1 8s3,2 8s6,6 2y,0 3a,0 fz,0 g0,
2z 8vg,1 8vi,4 8vn,3g 8yp,8f lal,2b vj3,c feo,0 ffs,0 fg6,0 fgf,0 fh5,0 fid,0 fik,0 fj4,0 fju,
0 g1r,0 g2t,0 g2z,0 g3m,0 g46,0 g4r,0 g68,0 g6t,0 g74,0 gbf,0 ge1,0 get,0 gey,0 gfs,0 gg1,0 ggs,
0 gh5,0 ghu,0 gja,0 gjs,0 gkj,0 h5j,0 h7j,0 hkb,0 hky,0 hl6,0 hlh,0 hlz,0 ho3,0 i1c,0 i2o,0 i60,
0 i6n,0 i76,0 i7s,0 i9a,0 i9d,0 ijf,0 ijp,0 ik1,0 ike,0 inm,0 inu,0 inz,0 ir8,0 iri,0 irv,0 is3,
0 its,0 iu9,0 iur,0 iwz,0 jd4,0 jee,0 jez,0 jzj,0 jzo,0 k1z,0 k2f,0 k2s,0 k3d,0 k4g,0 k4l,0 kc0,
0 kco,0 kdk,0 l5s,0 l7m,0 l89,0 l9v,0 laj,0 las,0 laz,0 lcf,0 lck,0 ldg,0 m7f,0 mju,0 mk6,0 mkb,
0 mkf,0 mkn,0 ml5,0 ml7,0 mng,0 mtg,0 mtl,0 n30,0 n3a,0 n4o,0 n4v,0 n54,0 n5c,0 n7v,0 n82,0 nee,
0 nel,0 nfy,0 ngf,0 nhq,0 nob,0 noi,0 noz,0 ny2,0 o1k,0 o1q,0 o6s,0 o97,0 oah,0 okz,0 ooo,0 p4m,
0 p5d,0 p6y,0 p8d,0 pa9,0 pak,0 paq,0 pbn,0 pdr,0 pe1,0 pnn,0 pnu,0 po3,0 poc,0 pos,0 pp7,0 ppb,
0 pri,0 prm,0 prs,0 qj1,0 qjv,0 qww,0 qx8,0 qxv,0 r5q,0 r63,0 r82,0 r9c,0 rp3,0 rpi,0 rpx,0 rqw,
0 rrx,0 rxg,0 rxs,0 rzn,0 s6j,0 s7e,0 sd7,0 sds,0 sdx,0 sk1,0 sp5,0 ssm,0 sss,0 ssx,0 tiv,0 tj4,
0 tng,0 trq,0 trt,0 tt4,0 tw1,0 twe,0 twi,0 twp,0 tzf,0 u0d,0 u0j,0 u0x,0 u5k,0 u6z,0 u73,0 uc6,
0 uc9,0 ucs,0 ujs,0 ul4,0 ulb,0 un9,0 unj,0 unm,0 unw,0 uoq,0 uzp,0 vat,0 vb3,0 vc5,0 vcr,0 vcz,
0 vd9,0 vdd,0 veh,0 vel,0 vf2,0 vf7,0 vfk,0 vgb,0 vgq,0 vgy,0 vil,0 vj0,0 vj4,16 w,1 1a,1f 9hu,
1 gg1,0 gg4,0 gg5,2o w 9ll,0 w 9lm,2 9l4 9l6,2n 9mb 9mw,1d 3cw,0 3cx,0 3hm,0 3cy,0 3ho,0 3hp,
9 3dm,3 3dt,w 3dg,0 3dh,0 3if,0 3ig,0 3ik,0 3im,0 3ir,0 3iv,0 3ix,0 3do,0 3j1,0 3j3,0 3dp,0 3dq,
0 3ds,0 3du,0 3dv,0 3dz,0 3e1,5 3ea,0 3ee,0 3eo,0 3ev,0 3f0,0 3jl,0 3jm,3 3gk,0 3gl,0 3go,0 3gx,
0 3gy,0 3h0,0 3ha,0 3hd,3 feo,0 fik,0 fex,0 h5n,0 fey,0 ffx,0 fez,0 n5e,0 fh5,0 ffd,0 fep,0 hm1,
0 h80,0 fju,2o 14 3cw 15,0 14 3cy 15,0 14 3cz 15,0 14 3d1 15,0 14 3d2 15,0 14 3d3 15,
0 14 3d5 15,0 14 3d7 15,0 14 3d8 15,0 14 3da 15,0 14 3db 15,0 14 3dc 15,0 14 3dd 15,0 14 3de 15,
0 14 xz4 15,0 14 yvs 15,0 14 zc4 15,0 14 108s 15,0 14 10p4 15,0 14 115g 15,0 14 1224 15,
0 14 12ys 15,0 14 13f4 15,0 14 14bs 15,0 14 14s4 15,0 14 158g 15,0 14 15os 15,0 14 1654 15,
0 14 13p8 15,0 14 1350 13ic 15,0 14 1350 16f8 15,1 14 feo 15,0 14 fik 15,0 14 fex 15,
0 14 h5n 15,0 14 fis 15,0 14 g31 15,0 14 fer 15,0 14 g2z 15,0 14 fh9 15,0 14 gg1 15,0 14 kco 15,
0 14 m7f 15,0 14 ldg 15,0 14 kdk 15,0 14 ssx 15,0 14 h7j 15,0 14 k4l 15,0 14 kkq 15,0 14 kcp 15,
0 14 ny6 15,0 14 glp 15,0 14 mm1 15,0 14 rs1 15,0 14 nz1 15,0 14 gc4 15,0 14 fkz 15,0 14 gos 15,
0 14 i1y 15,0 14 nhf 15,0 14 flt 15,0 14 rt3 15,0 14 ggk 15,0 14 nzh 15,0 14 fm9 15,0 14 pnu 15,
0 14 po3 15,0 gun,0 inw,0 k1z,0 oen,8 34 38 2t,0 1e 1d,0 1e 1e,0 1e 1f,0 1e 1g,0 1e 1h,0 1e 1i,
0 1e 1j,0 1e 1k,0 1e 1l,0 1f 1c,0 1f 1d,0 1f 1e,0 1f 1f,0 1f 1g,0 1f 1h,0 3cw,0 3cy,0 3cz,3 3d5,
0 3d7,0 3d8,5 xz4,0 yvs,0 zc4,0 108s,0 10p4,0 115g,0 1224,0 12ys,0 13f4,0 14bs,0 14s4,0 158g,
0 15os,0 1654,0 14c8 y5c,0 13p8 13dk,0 138w,1 feo,0 fik,0 fex,0 h5n,0 fis,0 g31,0 fer,0 g2z,
0 fh9,0 gg1,0 kco,0 m7f,0 ldg,0 kdk,0 ssx,0 h7j,0 k4l,0 kkq,0 kcp,0 ny6,0 glp,0 mm1,0 rs1,0 nz1,
0 gc4,0 o2g,0 n5j,0 ho3,0 six,0 g16,0 ghc,0 lig,0 u11,0 fm9,0 g49,0 l7n,0 fey,0 ffx,0 fez,0 ijq,
0 gkz,0 gfv,0 i3b,0 i1y,0 nhf,0 flt,0 rt3,0 ggk,0 hlo,0 1f 1i,0 1f 1j,0 1f 1k,0 1f 1l,0 1g 1c,
0 1g 1d,0 1g 1e,0 1g 1f,0 1g 1g,0 1g 1h,0 1g 1i,0 1g 1j,0 1g 1k,0 1g 1l,0 1h 1c,0 1d kco,
0 1e kco,0 1f kco,0 1g kco,0 1h kco,0 1i kco,0 1j kco,0 1k kco,0 1l kco,0 1d 1c kco,0 1d 1d kco,
0 1d 1e kco,0 2w 2v,0 2t 36 2v,0 2t 3a,0 30 38 2s,0 9lu,0 9lw,0 9ly,0 9m0,0 9m2,0 9m3,0 9m5,
0 9m7,0 9m9,0 9mb,0 9md,0 9mf,0 9mh,0 9mj,0 9ml,0 9mn,0 9mp,0 9ms,0 9mu,0 9mw,6 9n6,0 9n9,0 9nc,
0 9nf,5 9no,0 9nq,a fl0 gp8,0 9lu 9n5 9oc 9mw,0 9lu 9nv 9n9 9lt,0 9lu 9o3 9ne 9lu,0 9lu 9oc 9nv,
0 9lw 9mz 9o3 9m8,0 9lw 9o3 9mp,0 9ly 9m1 9o3,0 9m0 9mh 9m7 9oc 9mx,0 9m0 9oc 9m3 9oc,
0 9m2 9o3 9mh,0 9m2 9oc 9nk,0 9m3 9lw 9nu,0 9m3 9nt 9mr 9mw,0 9m3 9nx 9nu 9oc,0 9m4 9nx 9o3,
0 9m4 9o3 9ni,0 9m6 9m4,0 9m6 9mz 9oc,0 9m5 9np 9nu 9oc,0 9m6 9nv 9mo 9oc,0 9m5 9nx,
0 9m5 9nx 9m8 9nt 9nk,0 9m5 9nx 9nl 9oc 9mw 9nv,0 9m5 9nx 9nz 9mr 9mw,0 9m8 9nt 9nk,
0 9m8 9nt 9nk 9mw 9o3,0 9m7 9nv 9mk 9lw 9nx,0 9m7 9nx 9oc 9n1,0 9m9 9oc 9mh,0 9mb 9nv 9my,
0 9mb 9oc 9nh,0 9md 9lw 9m7 9nv,0 9md 9o3 9mp 9oc 9nk,0 9mf 9nu 9o3 9m8,0 9mj 9o3 9mp,
0 9mj 9o3 9mw,0 9mo 9oc 9mh,0 9mv 9mf,0 9mx 9nv,0 9mw 9o3,0 9my 9n2,0 9n2 9mr 9mw,0 9n3 9lw 9ms,
0 9n5 9oc 9mj 9o3 9mw,0 9n5 9oc 9ms,0 9n4 9oc 9nw 9nv,0 9n8 9lu 9mh 9mw 9nv,0 9n8 9m7 9nv,
0 9n8 9mb,0 9n7 9nv,0 9n9 9lt 9nt 9mr 9mx,0 9n9 9lv 9oc 9mw,0 9na 9mr 9mf 9lz 9nv,0 9n9 9nt 9o3,
0 9nc 9m7 9mn 9oc 9nv,0 9ne 9ml,0 9ne 9mz 9n6,0 9nc 9nv 9ms,0 9ne 9o3 9mh,0 9ne 9oc 9mg,
0 9nd 9oc 9mn,0 9nh 9lw 9o3 9mw,0 9ng 9nv 9mw,0 9nf 9o3,0 9nh 9o3 9mx,0 9nf 9oc 9nv,
0 9nf 9oc 9o3,0 9ni 9lw 9m7 9nx,0 9ni 9lw 9nv,0 9ni 9mr 9n3,0 9ni 9nv 9m7,0 9ni 9o3 9mf 9nr 9o3,
0 9nj 9m7 9nx 9o3,0 9nj 9nu,0 9nj 9nu 9n4 9oc 9nv,0 9nl 9m4,0 9nl 9m4 9mw 9o3,0 9nl 9oc 9mw 9nv,
0 9no 9oc 9mx,0 9no 9oc 9nv,0 9nq 9lu 9o3,0 9nu 9mr 9mw 9nv,0 9nu 9nt,0 9nv 9n8 9oc,
0 9nv 9oc 9na 9nv,0 9nw 9nk,0 9nw 9o3 9mw 9ma 9o3,0 9nz 9mr 9mw,0 1c m9l,0 1d m9l,0 1e m9l,
0 1f m9l,0 1g m9l,0 1h m9l,0 1i m9l,0 1j m9l,0 1k m9l,0 1l m9l,0 1d 1c m9l,0 1d 1d m9l,
0 1d 1e m9l,0 1d 1f m9l,0 1d 1g m9l,0 1d 1h m9l,0 1d 1i m9l,0 1d 1j m9l,0 1d 1k m9l,0 1d 1l m9l,
0 1e 1c m9l,0 1e 1d m9l,0 1e 1e m9l,0 1e 1f m9l,0 1e 1g m9l,0 2w 34 2p,0 2s 2p,0 2p 39,
0 2q 2p 36,0 33 3a,0 34 2r,0 2s 31,0 2s 31 1e,0 2s 31 1f,0 2x 39,0 inn jdc,0 k6l gp8,0 hlz l7n,
0 k5q lh7,0 kkq irz fmi ny6,0 34 2p,0 32 2p,0 qk 2p,0 31 2p,0 2z 2p,0 2z 2q,0 31 2q,0 2v 2q,
0 2r 2p 30,0 2z 2r 2p 30,0 34 2u,0 32 2u,0 qk 2u,0 qk 2v,0 31 2v,0 2z 2v,0 2w 3e,0 2z 2w 3e,
0 31 2w 3e,0 2v 2w 3e,0 38 2w 3e,0 qk 30,0 31 30,0 2s 30,0 2z 30,0 2u 31,0 32 31,0 qk 31,
0 31 31,0 2r 31,0 2z 31,0 31 31 1e,0 2r 31 1e,0 31 1e,0 2z 31 1e,0 31 31 1f,0 2r 31 1f,0 31 1f,
0 2z 31 1f,0 31 6qd 37,0 31 6qd 37 1e,0 34 2p,0 2z 34 2p,0 31 34 2p,0 2v 34 2p,0 36 2p 2s,
0 36 2p 2s 6qd 37,0 36 2p 2s 6qd 37 1e,0 34 37,0 32 37,0 qk 37,0 31 37,0 34 3a,0 32 3a,0 qk 3a,
0 31 3a,0 2z 3a,0 31 3a,0 34 3b,0 32 3b,0 qk 3b,0 31 3b,0 2z 3b,0 31 3b,0 2z qx,0 31 qx,1 2q 35,
0 2r 2r,0 2r 2s,0 2r 6qd 2z 2v,1 2s 2q,0 2v 3d,0 2w 2p,0 2w 34,0 2x 32,0 2z 2z,0 2z 31,0 2z 38,
0 30 31,0 30 32,0 30 33 2v,0 30 3c,0 31 2q,0 31 2x 30,0 31 33 30,0 34 2w,1 34 34 31,0 34 36,
0 37 36,0 37 3a,0 3b 2q,0 3a 6qd 31,0 2p 6qd 31,0 1d k4l,0 1e k4l,0 1f k4l,0 1g k4l,0 1h k4l,
0 1i k4l,0 1j k4l,0 1k k4l,0 1l k4l,0 1d 1c k4l,0 1d 1d k4l,0 1d 1e k4l,0 1d 1f k4l,0 1d 1g k4l,
0 1d 1h k4l,0 1d 1i k4l,0 1d 1j k4l,0 1d 1k k4l,0 1d 1l k4l,0 1e 1c k4l,0 1e 1d k4l,0 1e 1e k4l,
0 1e 1f k4l,0 1e 1g k4l,0 1e 1h k4l,0 1e 1i k4l,0 1e 1j k4l,0 1e 1k k4l,0 1e 1l k4l,0 1f 1c k4l,
0 1f 1d k4l,0 2v 2p 30,mn0 ui,0 uk,5u x2n,8 x2y,1 x30,1 5tl,d x3g,1 h1,2 x3l,1 x3n,n h2,0 gs,
0 gx,0 h8,0 h6,1 im,0 hz,0 il,0 xub,g x3o,0 hu,0 5u6,0 x54,1 x56,1 h0,g bf,k 37,0 2r,0 2u,0 35,
0 x6e,2 87,0 9f,o2 x0n,0 xtj,0 h7,0 xua,9 i5,fbq rpk,0 kc4,0 s7e,0 rt4,0 lw1,0 fg2,0 gkl,0 vj0,
0 vj0,0 hn5,0 ssx,0 gw7,0 hmw,0 jcm,0 ne1,0 p6t,0 qin,0 qt6,0 r20,0 sjz,0 kxu,0 ljv,0 mah,0 mvy,
0 q4d,0 sq2,0 uep,0 fia,0 ghh,0 l50,0 mjf,0 qi5,0 v8e,0 ifk,0 m3v,0 qfh,0 r50,0 jih,0 pnc,0 qvz,
0 iq2,0 kd3,0 lm2,0 mpo,0 slq,0 fpi,0 g53,0 gda,0 jwk,0 l3n,0 mj4,0 nhj,0 pa9,0 qh2,0 qjg,0 s1b,
0 tv6,0 upb,0 v7e,0 nt8,0 nzz,0 otc,0 q15,0 t1g,0 vb3,0 rfa,0 hjz,0 iro,0 okg,0 pdq,0 mle,0 nuy,
0 rsy,0 ttj,0 hjs,0 i8y,0 kyb,0 lp6,0 lxr,0 oq7,0 oxj,0 tor,0 gcy,0 pe3,0 g64,0 g5o,0 o4c,0 ou6,
0 q29,0 tpx,0 rk0,0 jin,0 kxu,0 rge,0 fg9,0 i5j,0 iz6,0 mtj,0 n74,0 gev,0 nwb,0 fr3,0 iw9,0 ff1,
0 lho,0 k1k,0 opu,0 gjn,0 hge,0 ni9,0 q4p,0 re2,0 la2,0 sds,0 lfs,0 jjy,0 put,0 jog,0 n6t,0 fji,
0 g2x,0 g5l,0 kn5,0 oo7,0 prj,0 rf6,0 ssv,0 gdx,0 gn6,0 ho3,0 ir0,0 k3p,0 m4e,0 nxm,0 tkd,0 ui2,
0 vbr,0 vda,0 gbf,0 kau,0 l87,0 sbm,0 ino,0 j9s,0 jcw,0 jve,0 lyb,0 mdl,0 n0p,0 o22,0 ovo,0 pdb,
0 s9y,0 q9a,0 sgz,0 t3e,0 g7r,0 gbn,0 gql,0 ma0,0 r0i,0 re2,0 iq1,0 iyd,0 jnf,0 l9q,0 oji,0 mt1,
0 fl0,0 h6h,0 i5j,0 iii,0 izg,0 muq,0 mzt,0 p7e,0 pc6,0 svo,0 tti,0 tvs,0 u1k,0 fpn,0 o1a,0 ss4,
0 trs,0 j4x,0 fie,0 fyy,0 i5q,0 i7z,0 k2h,0 kxu,0 mha,0 ncy,0 q9o,0 sjg,0 vil,0 k94,0 tny,0 gax,
0 kfv,0 kj7,0 lkx,0 luk,0 mx5,0 n6h,0 nsb,0 opc,0 u3i,0 g31,0 je6,0 tq0,0 fu3,0 ie1,0 lpm,0 sa2,
0 ivf,0 j7o,0 kk7,0 mtj,0 tqe,0 g89,0 glr,0 i91,0 k5v,0 kem,0 ko8,0 lid,0 mx2,0 naa,0 p6h,0 r0v,
0 r1d,0 sss,0 tsy,0 gfz,0 lve,0 gm5,0 mhc,0 n14,0 qgq,0 tr7,0 uvr,0 vbz,0 kgn,0 lor,0 pns,0 o97,
0 obk,0 olu,0 mo0,0 m8p,0 riw,0 fk0,0 px2,0 g8q,0 g7b,0 ip2,0 jir,0 onq,0 i2t,0 ljy,0 kac,0 saj,
0 qx8,0 tot,0 r63,0 iqb,0 g1s,0 gxs,2 hga,1 k8k,2 g66,0 mqy,0 ngq,0 ny4,0 nz2,0 nz9,0 o0f,0 tw6,
0 on2,0 p8d,1 qhe,1 rg8,2 shk,0 sn1,3 u7j,0 u7w,0 u94,0 v5g,0 sm6,0 trr,0 fqm,0 fzb,0 g25,0 gcp,
0 gdg,0 ggh,0 gwt,0 gzq,0 h2g,0 hfk,0 hig,0 i90,0 i9a,0 j2s,0 j8o,0 j9q,0 jci,0 k0f,0 k4i,0 k9d,
0 kn9,0 lmf,0 lqy,0 lya,0 mem,0 mjv,0 mxu,0 ntd,0 ny6,0 nyh,0 nyg,0 nyo,0 nyu,0 nz1,0 o0d,0 o0e,
0 o5c,0 o75,0 og0,0 ovo,0 ow9,0 oxt,0 p6a,0 pad,0 pnx,0 prt,0 prt,0 q53,0 r2o,0 r6e,0 rgh,0 ri1,
0 rtf,0 ruw,0 sdy,0 shk,0 tsz,0 u0v,0 u2j,0 j1x,0 36cu,0 pp4,2 ffq,0 g51,0 g2w,0 fpc,0 g1x,
0 g3k,0 gcn,0 ge2,0 gwt,0 gut,0 gwp,0 gyq,0 hga,0 hir,0 hms,0 hn8,0 huq,0 i08,0 iqa,0 iqh,0 iuh,
0 iwd,0 j4o,0 j7y,0 j60,0 j9q,0 j8g,0 jci,0 jec,0 jpg,0 jrw,0 jte,0 k0m,0 k8k,0 kd3,0 kd7,0 keu,
0 l89,0 la2,0 lkx,0 lwb,0 lvv,0 lya,0 m5a,0 mem,0 nmv,0 mk5,0 mnj,0 mqy,0 n01,0 n46,0 n5n,0 nbx,
0 nbz,0 ngq,0 nh7,0 nhw,0 nka,0 nk0,0 nv0,0 o8h,0 og0,0 ol7,0 orf,0 ovo,0 p4u,0 pad,0 pxu,0 q27,
0 qrd,0 r41,0 r5y,0 r6e,0 ren,0 rg8,0 rez,0 rgh,0 rge,0 rfx,0 ri1,0 rka,0 ruw,0 sag,0 sj6,0 srd,
0 sxi,0 tq4,0 tsz,0 tw6,0 tzv,0 u0v,0 u17,0 u2j,0 umq,0 vj0,0 313e,0 3138,0 33dh,0 brx,0 cns,
0 cop,0 39e1,0 3bgw,0 3i6r,0 vgj,0 vim,12 2u 2u,0 2u 2x,0 2u 30,0 2u 2u 2x,0 2u 2u 30,0 37 38,
0 37 38,c 12s 12u,0 12s 12d,0 12s 12j,0 132 12u,0 12s 12l,5 15l 14k,1 16a 14n,0 15u,0 15c,0 15f,
0 15g,3 160,0 162,0 17,0 161 14x,0 161 14y,0 161 14s 14x,0 161 14s 14y,0 15c 14n,0 15c 14o,
0 15c 14s,0 15d 14s,0 15e 14s,0 15f 14s,0 15g 14s,0 15h 14s,0 15i 14s,1 15k 14s,0 15l 14s,
0 15m 14s,0 15n 14s,0 15o 14s,1 15q 14s,1 15s 14s,0 15t 14s,1 15v 14s,0 15w 14s,1 15y 14s,
0 15z 14s,0 160 14s,0 161 14s,0 162 14s,0 15h 14p,0 15d 14v,0 15n 14v,0 15w 14v,0 15c 15o,0 19t,
0 19t,0 1a3,0 1a3,0 1a3,0 1a3,0 1a6,0 1a6,0 1a6,0 1a6,0 1a8,0 1a8,0 1a8,0 1a8,0 1a2,0 1a2,0 1a2,
0 1a2,0 1a7,0 1a7,0 1a7,0 1a7,0 1a1,0 1a1,0 1a1,0 1a1,0 1b8,0 1b8,0 1b8,0 1b8,0 1ba,0 1ba,0 1ba,
0 1ba,0 1ac,0 1ac,0 1ac,0 1ac,0 1ab,0 1ab,0 1ab,0 1ab,0 1ae,0 1ae,0 1ae,0 1ae,0 1af,0 1af,0 1af,
0 1af,0 1al,0 1al,0 1ak,0 1ak,0 1am,0 1am,0 1ag,0 1ag,0 1aw,0 1aw,0 1ap,0 1ap,0 1bd,0 1bd,0 1bd,
0 1bd,0 1bj,0 1bj,0 1bj,0 1bj,0 1bn,0 1bn,0 1bn,0 1bn,0 1bl,0 1bl,0 1bl,0 1bl,0 1bu,0 1bu,0 1bv,
0 1bv,0 1bv,0 1bv,0 1c0,0 1c0,0 1c1,0 1c1,0 1c1,0 1c1,0 1by,0 1by,0 1by,0 1by,0 1ci,0 1ci,0 1cj,
0 1cj,x 1bh,0 1bh,0 1bh,0 1bh,0 1c7,0 1c7,0 1c6,0 1c6,0 1c8,0 1c8,0 1c7 19w,0 1cb,0 1cb,0 1c5,
0 1c5,0 1c9,0 1c9,0 1cg,0 1cg,0 1cg,0 1cg,0 18p,0 18p,0 17q 17r,0 17q 17r,0 17q 1cl,0 17q 1cl,
0 17q 18o,0 17q 18o,0 17q 1c7,0 17q 1c7,0 17q 1c6,0 17q 1c6,0 17q 1c8,0 17q 1c8,0 17q 1cg,
0 17q 1cg,0 17q 1cg,0 17q 18p,0 17q 18p,0 17q 18p,0 1cc,0 1cc,0 1cc,0 1cc,0 17q 17w,0 17q 17x,
0 17q 18l,0 17q 18p,0 17q 18q,0 17s 17w,0 17s 17x,0 17s 17y,0 17s 18l,0 17s 18p,0 17s 18q,
0 17u 17w,0 17u 17x,0 17u 17y,0 17u 18l,0 17u 18p,0 17u 18q,0 17v 17w,0 17v 18l,0 17v 18p,
0 17v 18q,0 17w 17x,0 17w 18l,0 17x 17w,0 17x 18l,0 17y 17w,0 17y 17x,0 17y 18l,0 183 17w,
0 183 17x,0 183 17y,0 183 18l,0 185 17x,0 185 18l,0 186 17w,0 186 17x,0 186 17y,0 186 18l,
0 187 17x,0 187 18l,0 188 18l,0 189 17w,0 189 18l,0 18a 17w,0 18a 18l,0 18h 17w,0 18h 17x,
0 18h 17y,0 18h 18l,0 18h 18p,0 18h 18q,0 18i 17x,0 18i 18l,0 18i 18p,0 18i 18q,0 18j 17r,
0 18j 17w,0 18j 17x,0 18j 17y,0 18j 18k,0 18j 18l,0 18j 18p,0 18j 18q,0 18k 17w,0 18k 17x,
0 18k 17y,0 18k 18l,0 18k 18p,0 18k 18q,0 18l 17w,0 18l 17x,0 18l 17y,0 18l 18l,0 18l 18p,
0 18l 18q,0 18m 17w,0 18m 17x,0 18m 17y,0 18m 18l,0 18m 18p,0 18m 18q,0 18n 17w,0 18n 18l,
0 18n 18p,0 18n 18q,0 18q 17w,0 18q 17x,0 18q 17y,0 18q 18l,0 18q 18p,0 18q 18q,0 180 19s,
0 181 19s,0 18p 19s,0 w 18s 18x,0 w 18t 18x,0 w 18u 18x,0 w 18v 18x,0 w 18w 18x,0 w 18x 19s,
0 17q 181,0 17q 182,0 17q 18l,0 17q 18m,0 17q 18p,0 17q 18q,0 17s 181,0 17s 182,0 17s 18l,
0 17s 18m,0 17s 18p,0 17s 18q,0 17u 181,0 17u 182,0 17u 18l,0 17u 18m,0 17u 18p,0 17u 18q,
0 17v 181,0 17v 182,0 17v 18l,0 17v 18m,0 17v 18p,0 17v 18q,0 18h 18p,0 18h 18q,0 18i 18p,
0 18i 18q,0 18j 17r,0 18j 18k,0 18j 18l,0 18j 18p,0 18j 18q,0 18k 18l,0 18k 18p,0 18k 18q,
0 18l 17r,0 18l 18l,0 18m 181,0 18m 182,0 18m 18l,0 18m 18m,0 18m 18p,0 18m 18q,0 18p 19s,
0 18q 181,0 18q 182,0 18q 18l,0 18q 18m,0 18q 18p,0 18q 18q,0 17q 17w,0 17q 17x,0 17q 17y,
0 17q 18l,0 17q 18n,0 17s 17w,0 17s 17x,0 17s 17y,0 17s 18l,0 17s 18n,0 17u 17w,0 17u 17x,
0 17u 17y,0 17u 18l,0 17u 18n,0 17v 18l,0 17w 17x,0 17w 18l,0 17x 17w,0 17x 18l,0 17y 17w,
0 17y 18l,0 183 17w,0 183 17x,0 183 17y,0 183 18l,0 185 17x,0 185 17y,0 185 18l,0 186 17w,
0 186 17x,0 186 17y,0 186 18l,0 187 17x,0 188 18l,0 189 17w,0 189 18l,0 18a 17w,0 18a 18l,
0 18h 17w,0 18h 17x,0 18h 17y,0 18h 18l,0 18i 17x,0 18i 18l,0 18j 17w,0 18j 17x,0 18j 17y,
0 18j 18k,0 18j 18l,0 18k 17w,0 18k 17x,0 18k 17y,0 18k 18l,0 18k 18n,0 18l 17w,0 18l 17x,
0 18l 17y,0 18l 18l,0 18m 17w,0 18m 17x,0 18m 17y,0 18m 18l,0 18m 18n,0 18n 17w,0 18n 18l,
0 18n 19s,0 18q 17w,0 18q 17x,0 18q 17y,0 18q 18l,0 18q 18n,0 17q 18l,0 17q 18n,0 17s 18l,
0 17s 18n,0 17u 18l,0 17u 18n,0 17v 18l,0 17v 18n,0 183 18l,0 183 18n,0 184 18l,0 184 18n,
0 18j 18k,0 18j 18l,0 18k 18l,0 18m 18l,0 18m 18n,0 18q 18l,0 18q 18n,0 18g 18u 18x,
0 18g 18v 18x,0 18g 18w 18x,0 187 18p,0 187 18q,0 189 18p,0 189 18q,0 18a 18p,0 18a 18q,
0 183 18p,0 183 18q,0 184 18p,0 184 18q,0 17x 18p,0 17x 18q,0 17w 18p,0 17w 18q,0 17y 18p,
0 17y 18q,0 185 18p,0 185 18q,0 186 18p,0 186 18q,0 184 17w,0 184 17x,0 184 17y,0 184 18l,
0 184 181,0 183 181,0 185 181,0 186 181,0 187 18p,0 187 18q,0 189 18p,0 189 18q,0 18a 18p,
0 18a 18q,0 183 18p,0 183 18q,0 184 18p,0 184 18q,0 17x 18p,0 17x 18q,0 17w 18p,0 17w 18q,
0 17y 18p,0 17y 18q,0 185 18p,0 185 18q,0 186 18p,0 186 18q,0 184 17w,0 184 17x,0 184 17y,
0 184 18l,0 184 181,0 183 181,0 185 181,0 186 181,0 184 17w,0 184 17x,0 184 17y,0 184 18l,
0 183 18n,0 184 18n,0 187 18l,0 183 17w,0 183 17x,0 183 17y,0 184 17w,0 184 17x,0 184 17y,
0 187 18l,0 188 18l,0 17r 18r,0 17r 18r,i 17u 17w 18l,0 17u 17x 17w,0 17u 17x 17w,0 17u 17x 18l,
0 17u 17y 18l,0 17u 18l 17w,0 17u 18l 17x,0 17u 18l 17y,0 17w 18l 17x,0 17w 18l 17x,
0 17x 18l 18q,0 17x 18l 18p,0 183 17x 17w,0 183 17w 17x,0 183 17w 18p,0 183 18l 17x,
0 183 18l 17x,0 183 18l 17w,0 183 18l 18l,0 183 18l 18l,0 185 17x 17x,0 185 17x 17x,
0 185 18l 18l,0 184 17x 18l,0 184 17x 18l,0 184 17w 18q,0 184 18l 17y,0 184 18l 17y,
0 184 18l 18l,0 184 18l 18l,0 186 17x 18p,0 186 17y 18l,0 186 17y 18l,0 187 18l 17x,
0 187 18l 17x,0 187 18l 18l,0 187 18l 18q,0 189 17w 18l,0 189 18l 18l,0 189 18l 18l,
0 189 18l 18p,0 18a 18l 18l,0 18a 18l 18q,0 18a 18l 18p,0 18h 17y 18l,0 18h 17y 18l,
0 18i 18l 17x,0 18i 18l 18l,0 18k 17x 18l,0 18k 17x 18q,0 18k 17x 18p,0 18k 17w 17w,
0 18k 17w 17w,0 18k 17y 18l,0 18k 17y 18l,0 18k 18l 17x,0 18k 18l 17x,0 18l 17x 17w,
0 18l 17x 18l,0 18l 17x 18q,0 18l 17w 17x,0 18l 17w 18l,0 18l 17y 17w,0 18l 17y 18l,
2 18l 17w 17y,0 18n 18l 17w,0 18n 18l 18l,0 18m 17x 18l,0 18m 17x 18p,0 18m 17w 18l,
0 18m 17w 18l,0 18m 17w 18p,0 18m 18l 18q,0 18m 18l 18p,0 18q 18l 18l,0 18q 18l 18l,
0 17s 17y 18q,0 17u 17w 18q,0 17u 17w 18p,0 17u 17y 18q,0 17u 17y 18p,0 17u 18l 18q,
0 17u 18l 18p,0 17w 18l 18q,0 17w 17x 18p,0 17w 18l 18p,0 183 17y 18p,0 185 17x 18q,
0 184 17x 18q,0 186 17x 18q,0 18k 17w 18q,0 18k 18l 18q,0 18q 17x 18q,0 18q 17w 18q,
0 18q 18l 18q,0 18l 18l 18q,0 18i 18l 18q,0 18m 17x 18q,0 18i 18l 17x,0 18k 17x 18l,
0 189 18l 18q,0 18j 18l 18q,0 18m 17w 17x,0 18l 17y 18q,0 18k 17w 18l,0 18j 18l 18l,
0 18k 17w 18l,0 18m 17w 17x,0 17w 17x 18q,0 17x 17w 18q,0 18l 17w 18q,0 18h 18l 18q,
0 17s 17x 18q,0 18j 18l 18l,0 189 17w 18l,0 185 18l 18l,0 183 17y 18q,0 18m 17w 18q,
14 185 18k 1ci,0 18i 18k 1ci,0 17r 18k 18k 18n,0 17r 18j 17s 181,0 18l 17x 18l 17z,
0 185 18k 189 18l,0 181 183 18o 18k,0 189 18k 18q 18n,0 18o 183 18k 18l,0 185 18k 18p,
0 185 18k 18p w 17r 18k 18k 18n w 189 18k 18q 18n w 18o 183 18k 18l,
0 17w 18k w 17w 18k 17r 18k 18n,0 181 1cc 17r 18k,j 18,0 9hd,1 1m,0 1n,0 x,0 1r,0 9hy,0 9hz,
o 6c4,0 6c3,0 2n,0 2n,0 14,0 15,0 3f,0 3h,0 9hw,0 9hx,0 9hs,0 9ht,0 9hm,0 9hn,0 9hk,0 9hl,6 2j,
0 2l,0 w lh,0 w lh,0 w lh,0 w lh,0 2n,0 2n,0 2n,0 18,0 9hd,2 1n,0 1m,0 1r,0 x,0 6c4,0 14,0 15,
0 3f,0 3h,0 9hw,0 9hx,0 z,0 12,0 16,0 17,0 19,0 1o,0 1q,0 1p,1 2k,0 10,0 11,0 1s,4 w 18r,
0 18g 18r,0 w 18s,1 w 18t,1 w 18u,0 18g 18u,0 w 18v,0 18g 18v,0 w 18w,0 18g 18w,0 w 18x,
0 18g 18x,0 w 18y,0 18g 18y,0 17l,0 17m,0 17m,0 17n,0 17n,0 17o,0 17o,0 17p,0 17p,0 17q,0 17q,
0 17q,0 17q,0 17r,0 17r,0 17s,0 17s,0 17s,0 17s,0 17t,0 17t,0 17u,0 17u,0 17u,0 17u,0 17v,0 17v,
0 17v,0 17v,0 17w,0 17w,0 17w,0 17w,0 17x,0 17x,0 17x,0 17x,0 17y,0 17y,0 17y,0 17y,0 17z,0 17z,
0 180,0 180,0 181,0 181,0 182,0 182,0 183,0 183,0 183,0 183,0 184,0 184,0 184,0 184,0 185,0 185,
0 185,0 185,0 186,0 186,0 186,0 186,0 187,0 187,0 187,0 187,0 188,0 188,0 188,0 188,0 189,0 189,
0 189,0 189,0 18a,0 18a,0 18a,0 18a,0 18h,0 18h,0 18h,0 18h,0 18i,0 18i,0 18i,0 18i,0 18j,0 18j,
0 18j,0 18j,0 18k,0 18k,0 18k,0 18k,0 18l,0 18l,0 18l,0 18l,0 18m,0 18m,0 18m,0 18m,0 18n,0 18n,
0 18n,0 18n,0 18o,0 18o,0 18p,0 18p,0 18q,0 18q,0 18q,0 18q,0 18k 17m,0 18k 17m,0 18k 17n,
0 18k 17n,0 18k 17p,0 18k 17p,0 18k 17r,0 18k 17r,2q 879,0 87a,0 1a,0 9ho,0 9hp,0 9hd,0 9ob,
0 9o2,0 9lt,0 9lv,0 9lx,0 9lz,0 9m1,0 9nn,0 9np,0 9nr,0 9mr,0 9oc,0 9lu,0 9lw,0 9ly,0 9m0,0 9m2,
0 9m3,0 9m5,0 9m7,0 9m9,0 9mb,0 9md,0 9mf,0 9mh,0 9mj,0 9ml,0 9mn,0 9mp,0 9ms,0 9mu,0 9mw,6 9n6,
0 9n9,0 9nc,0 9nf,5 9no,0 9nq,6 9nz,0 9o3,0 9ll,0 9lm,1 3cw,0 3cx,0 3hm,0 3cy,0 3ho,0 3hp,9 3dm,
3 3dt,17 4i,0 4j,0 4s,0 w lg,0 4m,0 4l,0 6g9,1 7b6,4 7fk,0 7gr,145 1fp7,0 1fp8,dn k0,0 k1,0 6e,
0 ih,0 gj,1 ir,0 xuu,0 it,0 is,0 gm,0 gn,0 5u9,0 go,0 gu,0 ix,0 h0,0 gy,0 gw,0 ij,0 87,0 ik,
0 h3,0 hw,0 iy,0 iz,0 h8,0 2mmc,0 x3i,0 ha,0 2mmd,0 i6,0 2mme,0 6w,0 hi,0 hj,0 35,0 hm,0 2mmg,
0 hp,0 hq,0 hs,0 iw,0 iu,0 xuv,0 iv,0 i0,0 8s1,1 i7,0 ip,0 iq,0 ig,3 2mmi,0 2mn2,13tv 2jx3 2jxh,
0 2jx4 2jxh,0 2jx4 2jxh 2jxq,0 2jx4 2jxh 2jxr,0 2jx4 2jxh 2jxs,0 2jx4 2jxh 2jxt,
0 2jx4 2jxh 2jxu,2e 2jzt 2jxh,0 2jzu 2jxh,0 2jzt 2jxh 2jxq,0 2jzu 2jxh 2jxq,0 2jzt 2jxh 2jxr,
0 2jzu 2jxh 2jxr,kb 2p,1 2r,0 2s,2 2v,2 2y,0 2z,k 2u,1 2w,1y 2p,0 2q,1e 2p,0 2q,c 33,9p 8h,0 fr,
j qg,7 6pz,h qr,7 6pu,0 qd,0 qg,0 qi,0 qu,0 qp,0 qo,h qg,7 6pz,h qr,7 6pu,0 qd,0 qg,0 qi,0 qu,
0 qp,0 qo,h qg,7 6pz,h qr,7 6pu,0 qd,0 qg,0 qi,0 qu,0 qp,0 qo,h qg,7 6pz,h qr,7 6pu,0 qd,0 qg,
0 qi,0 qu,0 qp,0 qo,h qg,7 6pz,h qr,7 6pu,0 qd,0 qg,0 qi,0 qu,0 qp,0 qo,0 rh,0 rh,1ob uj,0 ul,
0 um,0 ww9,0 yh,0 uu,0 uw,0 yx,0 xb,0 y7,9 u2,0 u3,0 u6,0 u7,0 u9,6 ui,0 uj,0 wh,0 uu,0 ut,0 v3,
0 x7,0 wup,0 xd,2oi 17r,0 17s,0 17w,0 17z,1 18o,0 182,0 17x,0 187,0 18q,4 183,0 189,0 18h,0 185,
0 18i,0 181,0 184,0 17u,0 17v,0 17y,0 180,0 186,0 188,0 18a,0 19q,0 1bu,0 1b5,0 19r,1 17s,0 17w,
1 18n,2 17x,1 18q,4 183,0 189,0 18h,0 185,0 18i,1 184,0 17u,0 17v,0 17y,1 186,1 18a,6 17w,4 17x,
1 18q,1 18k,1 18m,0 183,0 189,1 185,0 18i,1 184,2 17y,1 186,1 18a,1 1bu,1 19r,1 17s,0 17w,1 18n,
2 17x,0 187,0 18q,0 18j,1 18l,0 18m,0 183,0 189,0 18h,0 185,0 18i,1 184,0 17u,0 17v,0 17y,1 186,
0 188,0 18a,0 19q,1 1b5,1 17r,0 17s,0 17w,0 17z,0 18n,0 18o,0 182,0 17x,0 187,0 18q,4 183,0 189,
0 18h,0 185,0 18i,0 181,0 184,0 17u,0 17v,0 17y,0 180,0 186,0 188,0 18a,5 17s,0 17w,0 17z,1 18o,
0 182,0 17x,0 187,0 18q,4 183,0 189,0 18h,0 185,0 18i,0 181,0 184,0 17u,0 17v,0 17y,0 180,0 186,
0 188,0 18a,g5 1c 18,0 1d 18,0 1e 18,0 1f 18,0 1g 18,0 1h 18,0 1i 18,0 1j 18,0 1k 18,0 1l 18,
5 14 2p 15,0 14 2q 15,0 14 2r 15,0 14 2s 15,0 14 2t 15,0 14 2u 15,0 14 2v 15,0 14 2w 15,
0 14 2x 15,0 14 2y 15,0 14 2z 15,0 14 30 15,0 14 31 15,0 14 32 15,0 14 33 15,0 14 34 15,
0 14 35 15,0 14 36 15,0 14 37 15,0 14 38 15,0 14 39 15,0 14 3a 15,0 14 3b 15,0 14 3c 15,
0 14 3d 15,0 14 3e 15,0 9hw 37 9hx,0 2r,0 36,0 2r 2s,0 3b 3e,r 2w 3a,0 31 3a,0 37 2s,0 37 37,
0 34 34 3a,0 3b 2r,q 31 2r,0 31 2s,0 31 36,z 2s 2y,33 9kr 9jf,0 9mb 9mb,0 9md,d jez,0 i1j,0 gjw,
0 9mv,0 fik,0 hlm,0 r8j,0 hm1,0 fj8,0 k68,0 mch,0 k2h,0 g99,0 ivg,0 g3x,0 k34,0 g7x,0 oqq,0 n4v,
0 rs9,0 hkg,0 gmx,0 lxw,0 jh1,0 jmd,0 feo,0 fex,0 si2,0 ijq,0 ffx,0 gkz,0 jk7,0 rxs,0 jf7,0 o01,
0 o6y,0 glk,0 lts,0 kcp,0 kco,0 n5f,0 gaa,0 gxi,0 sp9,4 9hw kdo 9hx,0 9hw fex 9hx,0 9hw fik 9hx,
0 9hw i2x 9hx,0 9hw m9l 9hx,0 9hw jf7 9hx,0 9hw nh3 9hx,0 9hw gd9 9hx,0 9hw k0n 9hx,7 ivr,0 gkv,
1fou fgd,0 fg8,0 fgh,0 2tcy,0 fog,0 fqm,0 fqz,0 fsy,0 fwa,0 fx5,0 fzb,0 fyn,0 ae6,0 2ud6,0 g25,
0 g2c,0 g2s,0 g3b,0 2u58,0 aex,0 g2v,0 g3x,0 2u6j,0 g47,0 g4k,0 fkc,0 g4s,0 g51,0 3ly7,0 g6t,
0 g77,0 afz,0 g8r,0 g92,0 gaa,0 gaf,0 ahh,0 gcn,0 gcp,0 gdg,0 ge2,0 ged,0 gee,0 gev,0 gg9,0 ggh,
0 ggq,0 ghf,0 ghp,0 ghr,0 ghr,0 ghr,0 2v58,0 m7k,0 gju,0 gkf,0 2vdv,0 gkr,0 gkx,0 gli,0 gpq,
0 gmw,0 gnc,0 go8,0 gpu,0 gs6,0 gsw,0 gur,0 gv7,0 gw4,0 gw4,0 gwp,0 gx7,0 gxf,0 gxu,0 h7a,0 gzq,
0 h7b,0 h1t,0 h2s,0 g7b,0 hke,0 hce,0 hdg,0 he5,0 haj,0 hf6,0 hf5,0 hik,0 2x9g,0 hki,0 hkn,
0 hl2,0 hlm,0 hlu,0 hnm,0 2xm0,0 2xnu,0 hrg,0 hsr,0 ht3,0 hqw,0 huu,0 aum,0 av0,0 hzc,0 i0u,
0 i0u,0 2y88,0 i4j,0 i54,0 i5j,0 i5v,0 2yhk,0 i67,0 i6e,0 itv,0 i76,0 ayp,0 i8w,0 i9a,0 ibk,
0 ia5,0 2z1g,0 if7,0 2z1i,0 ige,0 igb,0 igs,0 ijl,0 ijm,0 b3j,0 ikd,0 ilk,0 im5,0 ind,0 b4y,
0 2zr7,0 b5o,0 ipc,0 ipf,0 ipi,0 iq2,0 3pg2,0 iri,0 3035,0 3035,0 poh,0 isi,0 isi,0 b7r,0 335k,
0 3cgq,0 iua,0 iuj,0 b8j,0 ivu,0 ix9,0 ixj,0 iyh,0 j29,0 bay,0 ba4,0 j2s,0 30t0,0 j47,0 j7s,
0 j7w,0 j7y,0 j7w,0 j96,0 j9q,0 jaq,0 jac,0 jan,0 jby,0 jci,0 jcm,0 jdc,0 jdn,0 jfh,0 jht,0 jis,
0 jm8,0 31n0,0 jlp,0 jjw,0 jmw,0 jnn,0 jqc,0 31td,0 js2,0 jph,0 jop,0 bhq,0 ju1,0 jum,0 jvh,
0 juf,0 bjg,0 k0f,0 k18,0 32mi,0 k4j,0 kc8,0 k7d,0 bo9,0 k9d,0 bns,0 bms,0 g42,0 g45,0 kcg,
0 k9o,0 pf1,0 deh,0 kd3,0 kd7,0 kdd,0 kf2,0 ker,0 33cz,0 bpl,0 kje,0 kg5,0 klu,0 kn9,0 33hp,
0 kni,0 kkf,0 kr8,0 brx,0 ksi,0 kv7,0 kx6,0 l2g,0 33xf,0 l3v,0 bvc,0 l5t,0 34br,0 l78,0 bwu,
0 l82,0 l9b,0 la2,0 la3,0 34p9,0 2yvf,0 34sa,0 le6,0 354s,0 lhb,0 lhp,0 lev,0 ljq,0 lku,0 lmf,
0 lkx,0 lm1,0 lmg,0 lmt,0 357i,0 lkk,0 lrj,0 lta,0 c37,0 lvv,0 lvr,0 35jl,0 lq1,0 m0e,0 35ni,
0 35ou,0 m2u,0 m61,0 m5a,0 m57,0 c5y,0 m6i,0 m7x,0 m7r,0 m99,0 2u5h,0 mdh,0 368z,0 mfw,0 36i3,
0 mjs,0 mk5,0 mkw,0 36yw,0 mm8,0 mmt,0 3779,0 37dg,0 mt6,0 mtn,0 cdo,0 mud,0 ce0,0 ce0,0 myv,
0 mzg,0 n01,0 n0l,0 n2i,0 cgr,0 n50,0 386u,0 n5q,0 389e,0 n74,0 2zrz,0 nbk,0 38v5,0 38vs,0 38zo,
0 cn0,0 cnc,0 nhw,0 394j,0 394i,0 395l,0 396b,0 nj2,0 nj3,0 nj3,0 nka,0 cop,0 nm3,0 cp2,0 cra,
0 39r1,0 nri,0 nt8,0 nv0,0 ctf,0 3a5i,0 nyu,0 3a8q,0 3a9x,0 o0f,0 o2z,0 cvj,0 o5c,0 o5m,0 o5r,
0 3at8,0 3b1j,0 3b1j,0 oa6,0 d1e,0 3b8r,0 og6,0 og9,0 d2f,0 3beo,0 onm,0 d5s,0 oo8,0 oo3,0 oow,
0 3c06,0 orn,0 d8h,0 ouf,0 ow2,0 oxx,0 d9w,0 3ciw,0 3cjr,0 dax,0 3cnt,0 p6i,0 3cqm,0 p79,0 pa2,
0 pad,0 3d22,0 3d43,0 pcw,0 3d7s,0 pdc,0 33a7,0 ded,0 pf6,0 phf,0 dfv,0 pj2,0 hx1,0 3dlz,0 3dmd,
0 33bn,0 33bw,0 poh,0 pok,0 sda,0 dij,0 psh,0 psb,0 pst,0 gc3,0 ptd,0 ptf,0 ptp,0 puu,0 3ebg,
0 put,0 pwd,0 pyb,0 q0d,0 pwj,0 q0t,0 q1z,0 q53,0 pxv,0 q16,0 q18,0 q1o,0 3eie,0 3eqz,0 3emt,
0 dnv,0 q9d,0 q9f,0 qae,0 3g0a,0 qck,0 3f3g,0 dp9,0 dpd,0 3f75,0 3ff6,0 dpn,0 qj4,0 qjg,0 qjr,
0 qjt,0 qll,0 qko,0 qoe,0 qn6,0 qrd,0 qp4,0 qqz,0 qrq,0 dsn,0 qu9,0 qv5,0 dtl,0 qxs,0 qxv,
0 3giv,0 r13,0 r1a,0 dv9,0 r22,0 aez,0 3gz2,0 3h46,0 dz2,0 dzb,0 rds,0 rfx,0 rka,0 rpx,0 3hrc,
0 rsb,0 rsx,0 rvf,0 rxz,0 3i9b,0 2upw,0 s0b,0 rzw,0 s1c,0 2uvy,0 s7o,0 sag,0 3jki,0 3jl9,0 sk4,
0 smp,0 snl,0 3ju6,0 snv,0 svs,0 t07,0 t08,0 sxo,0 t89,0 t91,0 3ksa,0 tjf,0 ej9,0 tkn,0 3l2v,
0 eli,0 ts3,0 iia,0 tur,0 3ltx,0 3lzu,0 epa,0 epi,0 u00,0 3mdm,0 er6,0 3mhi,0 u17,0 u17,0 u21,
0 3mpi,0 u76,0 eur,0 u95,0 ucn,0 ude,0 uf2,0 ez2,0 3nsg,0 umq,0 uv4,0 v0d,0 f66,0 f71,0 v3b,
0 3owe,0 f7c,0 3oxx,0 3p5a,0 3p8x,0 vcr,0 f9y,0 veh,0 vem,0 vet,0 vf3,0 vfa,0 vgb,0 3pxc,
".splitOn ",").map numbers)

end KernelHub.Url.Idna
