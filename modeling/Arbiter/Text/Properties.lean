/-!
# Properties of characters

What the general categories leave open about some properties of characters, as runs in the form
that `Arbiter.Text.Runs` reads.
-/

namespace Arbiter.Text

/-- Characters that count as alphabetic without being letters or letter numbers. -/
def otherAlphabetic : String := String.join [
  "n9 u-d g1-e 2 2-2 2-2 2 21-b 1d-d 2-7 h 2u-7 5-4 3-2 5 10 v-g 2v-b 2u-2 4-9 2-3 2-4 2z 1p-c ",
  "4-7 7-k 1j-2 3-f 2-2 6-3 b-2 u-3 1n-7 3-2 3-2 b b-2 u-3 1n-5 5-2 3-2 5 v-2 4 c-3 1n-8 2-3 ",
  "2-2 m-2 n-3 5-3 1n-7 3-2 3-2 a-2 b-2 v 1o-5 4-3 2-3 b 15-5 1m-7 2-3 2-3 9-2 c-2 u-3 1n-7 ",
  "2-3 2-3 9-2 c-2 g d-4 1n-7 2-3 2-3 b b-2 u-3 24-6 2 2-8 j-2 1q 3-7 j 2s 3-6 2-2 h 4k-j a-b ",
  "2-10 33-c 2 3-4 o-4 5-3 2-3 3-7 4-4 e-c 2 b-4 19x-2 v-2 v-2 v-2 1v-j 59-2 z 3b-c 5-9 67-5 ",
  "1m-a 3-k 23-2 c-3 1e-5 1d-f 1p-3 v-9 3-2 1m-b 1f-j bh-y 1c2-1g 1rr-w nsl-8 z-2 9v 9 o-5 ",
  "2h-2 1f-g 2 1m 13-5 t-c 1a-4 1d-c 12 1w-e d 9-2 1a-3 1f 2-3 3-2 6 19-5 6 6m-8 fn8 1nc-5 ",
  "1af-3 2-2 6-4 lx-4 1u 8y-2 26-3 78-3 1i-e 1a-2 c-3 1a-9 a 1q-3 11-c j-2 1m-3 1d-d f-2 2l-9 ",
  "3 7 3 4e-a o-4 1n-7 3-2 3-2 b b-2 2d-9 2 3 2-4 2-2 2w-d 2-3 2z-i 6m-7 3-7 u-2 2b-f 2 2z-b ",
  "2w-e 76-d 6w-6 2-2 3-2 4 2 3z-7 3-6 5 t-a 17-5 2-4 j-b 1b-e 5l-8 5k-8 2-7 2c-m 2-e 3f-6 4 ",
  "2-2 2-3 2 4 1v-5 2-2 2-4 9p-4 a-2 2 1d-7 4-3 d0e-h 2sh 2-1j 8-4 2m-2 f59 6zm-7 2-h 3-7 2-2 ",
  "2-5 2t 190 3 8-2 6 gi 1k9-q 7-q 7-q"]

/-- Characters that count as lowercase without being lowercase letters. -/
def otherLowercase : String := String.join [
  "4q g dy-9 8-2 v-5 2p 1h 2o2 2eo-1r e z-11 j6 e h-d 5w-g nl-q 1hv-2 o4f-2 5v 3l-4 4-2 o3-4 a ",
  "i6v 3-3 2-16 2-9 16ra-1q"]

/-- Characters that count as uppercase without being uppercase letters. -/
def otherUppercase : String := "6lc-g nb-q 2ixt-q 7-q 7-q"

/-- Characters that are passed over in finding cased neighbours, beside marks, formats and modifiers. -/
def otherCaseIgnorable : String := "13 7 c 3h k0 d4 45 55w-2 b 3 17u4 1r 3 4y 7 c"

/-- Characters that count as mathematical without being mathematical symbols. -/
def otherMath : String := String.join [
  "2m oi-3 3 r-2 3-2 5k1 s-3 c x-4 p-2 f-2 1u-d 5 4-2 5-5 j 5 3-a 2 4-5 7 4-2 3-2 2-3 2-6 4-4 ",
  "6-5 24-5 3-4 2-2 2-2 2 2-5 3-2 5-2 5-i 3-2 2 2-7 2 7-2 83-4 4p-2 2 p i ce-2 d-9 6-5 6-2 3-2 ",
  "4-5 f 2 3-6 p-2 1m 2 u-4 a-2 9j-2 w-a b8-m 1s-4 x-2 15yc 2 5 5w 2 160y-2d 2-1z 2-2 3 3-2 ",
  "3-4 2-c 2 2-7 2-1t 2-4 3-8 2-7 2-s 2-4 2-5 2 4-7 2-9g 3-p 2-p 2-v 2-p 2-v 2-p 2-v 2-p 2-v ",
  "2-p 2-8 3-1e 4ch-4 2-r 2-2 2 3 2-a 2-4 2 2 7 5/3 2-3 2-2 2 3/5 2-2 2 3-4 2-7 2-4 2-4 2 2-a ",
  "2-h 6-3 2-5 2-h"]

/-- Emoji. -/
def emojiRuns : String := String.join [
  "z 7 6-a 34 5 68e d 61 n 2j-6 g-2 a8-2 d 4n q-b 5-3 5k 6g-2 b a 1n-4 2-5 a 3 3-2 3 5 3 2-2 3 ",
  "4 4-2 9-3 6 2 6-c c-2 3 2-2 2 j 3-2 j-6 2 2-2 4-2 6 3-2 5-2 c-2 6-2 3 6-2 2 2-2 l-2 6-6 2-4 ",
  "3 5 3 3-6 2 3/3 7 4 7 b-2 g 3 5 2 5-3 2 c-2 1d-3 a f f ad-2 cw-3 k-2 1g 5 yj d gq 2 2fzf 5n ",
  "4h-2 d-2 f 3-a 24-q 2-2 o l 3-9 m-2 4v-y 3-34 3-2 2-3 3-2b 3-3 2-7b 2-1r c-6 2-o 8-2 3-8 d ",
  "3-4 3 5-2 e-2 3 9-2 a 6-3 d-3 9-3 3 2 5 7 4 7-2e 1d-1y 6-8 3-4 4-a 4 2-2 4 3-a 6c-c 5 7w-1b ",
  "2-a 2-55 35-d 4-b 4-1l 2 5-g 3-c 5-a"]

/-- Emoji that are shown as pictures by themselves. -/
def emojiPresentationRuns : String := String.join [
  "6xm-2 5q-4 4 3 ei-2 m-2 1f-c 18 k e 9-2 i-2 6-2 9 6 m 8-2 2 5 3 8 5-2 t 10 2 5-3 2 1q-3 p f ",
  "nw-2 1g 5 2hf3 5n 5b 3-a 24-q 2 p l 3-5 2-3 m-2 4v-x d-9 2-1y 2-m d-17 5-5 d-h 4 4-1z 2 ",
  "2-57 3-1r e-4 2-o j r-2 e 2f-2d 1d-1y 7 4-3 3-4 4-4 c-2 8-9 6c-c 5 7w-1b 2-a 2-55 35-d 4-b ",
  "4-1l 2 5-g 3-c 5-a"]

/-- Pictographs. -/
def pictographicRuns : String := String.join [
  "4p 5 68e d 61 n 2j-6 g-2 a8-2 d 4n q-b 5-3 5k 6g-2 b a 1n-4 2-5 a 3 3-2 3 5 3 2-2 3 4 4-2 ",
  "9-3 6 2 6-c c-2 3 2-2 2 j 3-2 j-6 2 2-2 4-2 6 3-2 5-2 c-2 6-2 3 6-2 2 2-2 l-2 6-6 2-4 3 5 3 ",
  "3-6 2 3/3 7 4 7 b-2 g 3 5 2 5-3 2 c-2 1d-3 a f f ad-2 cw-3 k-2 1g 5 yj d gq 2 2fzf 14-4 ",
  "2t-c g-2 g f-2 12-a 35-2 d-2 f 3-a k-1k s-f b l 3-9 2-4 a-n 7-58 3-34 3-2 2-3 3-2b 3-3 2-4 ",
  "6-72 2-1r c-6 2-o 8-2 3-8 d 3-4 3 5-2 e-2 3 9-2 a 6-3 d-3 9-3 3 2 5 7 4 7-2e 1d-1y 6-8 3-h ",
  "4 2-6 3-d 63-12 d-4 1l-8 b-6 15-8 v-2 d-4 3-e a-13 d-1b 2-a 2-55 2h-8 f-42 75-se"]

/-- Dashes. -/
def dashRuns : String := "19 125 1g 2te sm 1l6-6 1q 14 g av 2dh 3 w-2 5 t cf k 34 14lt-2 12 b 4q 2u9 8v"

/-- Ideographs. -/
def ideographicRuns : String := String.join [
  "9hi-2 q-9 f-3 qu-534 1t-g74 hkx-a6 3-2y n4b e-5 a-5p2 16-w 2q-37 70e-b0 f7p-wyo x-3dq 3-4ge ",
  "3-5rl g-ha 1wj-f2 15v-3t7 6-6ju"]

/-- Diacritics. -/
def diacriticRuns : String := String.join [
  "2m 2 20 7 5 3-2 e0-4f 2-8 6-6 i-2 5 a-2 72-5 5u 1k-19 2 2-2 2-2 2 3o-8 5-2 3r-2 5-2 4-3 ",
  "1w-r 2k-b 1n-b z-2 3j-8 16-a h-s 1q h 4-4 t 23 h 33 h 33 h 1c-3 1p h 8 3c 33 h 33 h 32-2 h ",
  "3h 34 d-6 2 30 e-5 24-2 s/3 5-2 1v-3 2-2 1r 35 2-2 15-2 5-5 q-7 2 b-2 jm-3 qd-2 v 45-b a ",
  "9o-3 85 l-8 3 1d-f 3-b 4-f 3-c 21 g 13-9 1j-2 1n c-2 1v-2 1t-6 2b-p 5 7 3-3 1f-1r 1d-10 6-c ",
  "12-b ce 2-3 c-3 e-3 e-3 e-2 2k1-3 8u e3-6 2y-4 2o n77 d-2 2 t-2 2b-2 f-y 2v-3 2v 7-2 d 12 ",
  "48 s-i 1m-4 11 2o d 11 46-3 1u-4 1g 2t-5 a-3 3l-2 fn5 le-g 7j 2 1c 1a-2 1w l9 ww-6 2-16 2-9 ",
  "hq-3 5 4m-2 fw-6 13 r-5 b1 3-3 1z-b 1e-4 5d 16 21-2 3d-2 1r 25 a-3 2x-2 4z-2 29-2 h p-7 4-5 ",
  "2i-3 2-2 e-2 2o 4 3g-2 70-2 3j 3b-2 38 7i-2 77-2 5 4d 2c j 2a bq 77 2-2 2a 1u a0-2 o 44t-f ",
  "8uy 1xd-5 1o-7 fp-2 f7-h 29-2 cn3-4 2-7 2-2 64i-1a 3-n f5-3 4-6 9-8 3-7 v-4 2v7-1q 5f-7 ag ",
  "1q-4 lb-2 kh-7 32-3 2-3"]

/-- Quotation marks. -/
def quotationRuns : String := "y 5 3o g 671-8 q-2 2rs cq-4 e-3 14pu-4 5a 5 2j-2"

/-- Characters reserved for the syntax of patterns. -/
def patternSyntaxRuns : String := String.join [
  "x-f b-7 r-4 2 r-4 z-7 2 2-2 2 2-2 5 5 4 o w 655-o 9-f 3-j 2-a 8i-k0 4h-hi v-vg e9-3k aq-3 ",
  "5-p g 14i6-2 7a-2"]

/-- Characters that extend a grapheme without being marks that take no space or that enclose. -/
def otherGraphemeExtend : String := String.join [
  "1xa p 9z p 2v p 6h 2 5-2 2-2 a-2 2w p 3c g 1ti v sh 6 2 6-2 2u 20-2 t5 36q-2 nxg 31 gym-2 3kx ",
  "39 7d f a 2p a 3 2-3 6 69 d 6q 7b hm d 16s fxr-2 j90-2 7-6 h41a-2o"]

/-- Properties that characters have or do not have: their names, and the characters that have them. -/
def propertyTexts : List (List String × String) := [
  (["bidicontrol", "bidic"], "17g 54i-2 r-5 1k-4"),
  (["changeswhencasefolded", "cwcf"], String.join [
    "1t-q 2j b-n 2-8 x/s 3/8 2-2 2/m 2-2 2/3 2-2 2 2-2 2-3 3-4 2-2 2-3 4-2 2-2 2 2 2-2 2 3 2-2 ",
    "2-3 2 2-2 4 8-2 2-2 2-2 2/8 3/9 3-2 2 2-3 2/t 8-2 2-2 3 2-4 2/4 6v 17 2 4 9 7 2-3 2 2-2 2-h ",
    "2-9 n d-3 4-2 2/c 2-2 3-2 2 2-2 3-1f 1d/h a/r 2-2 2/6 3/1c 3-12 1d 26x-12 2 6 mj-6 1oj-a ",
    "7-17 3-3 8x/23 6-2 3/1d a-8 9-6 b-8 9-8 9-6 c/4 9-8 h-1c 3-3 3-6 6-3 3-6 c-4 d-5 6-3 3-6 8a ",
    "4-2 7 1a-g k mr-q 1f5-1c 1d 2-3 3/3 2-4 2 3 9-3 2/1d 9 2 5 nym/n k/e 3s/7 4/v b 2 2-2 2/4 5 ",
    "2 3 2 4/a 2-5 2-5 2/7 2-4 2 2-2 2/8 p or-28 fnl-7 d-5 sq-q xy-14 3t-10 4d-b 2-f 2-7 2-2 ",
    "1d7-1f 4e-m 27v-w gw1-w 1t-p o5k-y"]),
  (["changeswhenlowercased", "cwl"], String.join [
    "1t-q 2u-n 2-7 y/s 3/8 3/n 2-2 2 2 4-2 2 2-2 2-3 3-4 2-2 2-3 4-2 2-2 2 2 2-2 2 3 2-2 2-3 2 ",
    "2-2 4 8-2 2-2 2-2 2/8 3/9 3-2 2 2-3 2/t 8-2 2-2 3 2-4 2/4 82 2 4 9 7 2-3 2 2-2 2-h 2-9 10 ",
    "9/c 6 3 2-2 3-1f 1d/h a/r 2-2 2/6 3/1c 3-12 28a-12 2 6 k3-2e 1p0 7-17 3-3 8x/23 a/1d a-8 ",
    "9-6 b-8 9-8 9-6 c/4 9-8 p-8 9-8 9-8 9-5 c-5 c-4 d-5 c-5 8a 4-2 7 1a-g k mr-q 1f5-1c 1d 2-3 ",
    "3/3 2-4 2 3 9-3 2/1d 9 2 5 nym/n k/e 3s/7 4/v b 2 2-2 2/4 5 2 3 2 4/a 2-5 2-5 2/7 2-4 2 2-2 ",
    "2/8 p h7w-q xy-14 3t-10 4d-b 2-f 2-7 2-2 1d7-1f 4e-m 27v-w gw1-w 1t-p o5k-y"]),
  (["changeswhentitlecased", "cwt"], String.join [
    "2p-q 1n 16-o 2-8 2/s 3/7 2-2 2/n 3 2 2-3 3 2 3 4 6 3 4-3 3 3/3 3 5 3 4 2 3 4 2 5 2-2 2-2 ",
    "2/8 2-2 2/8 2-3 2 2 4/k 4/9 9 3-2 2 5/4 2-6 2-2 2 2-2 4-2 2-4 2-5 3 2-2 3 8 3 2-2 4-6 6 b-2 ",
    "4n 18 2 4 4-3 j s-z 2-2 4-3 2/b 2-5 2 3 3 1h-1c 2/h a/r 3/6 2-2 2/1c 1e-13 2up-6 1oj-9 2 6n ",
    "4 h 37/22 2-7 6/1b 2-9 9-6 b-8 9-8 9-6 b-8 9-8 9-e 3-8 9-8 9-8 9-5 2-2 7 4-3 2-2 9-4 3-2 ",
    "9-8 b-3 2-2 9j y-g 5 ng-q 1fr-1c 2 4-2 2/3 7 3 b/1e 9 2 5 d-12 2 6 nx0/n k/e 3s/7 4/v b 2 ",
    "3/5 5 5 2-2 3/a c/8 5 2 3/8 r nx t-28 fnl-7 d-5 tm-q y6-14 3t-10 4c-b 2-f 2-7 2-2 1dw-1f ",
    "3i-m 27v-w gw1-w 1o-p o5r-y"]),
  (["changeswhenuppercased", "cwu"], String.join [
    "2p-q 1n 16-o 2-8 2/s 3/7 2-2 2/n 3 2 2-3 3 2 3 4 6 3 4-3 3 3/3 3 5 3 4 2 3 4 2 6-2 2-2 2-2 ",
    "2/7 2-2 2/8 2-2 2-2 2 4/k 4/9 9 3-2 2 5/4 2-6 2-2 2 2-2 4-2 2-4 2-5 3 2-2 3 8 3 2-2 4-6 6 ",
    "b-2 4n 18 2 4 4-3 j s-z 2-2 4-3 2/b 2-5 2 3 3 1h-1c 2/h a/r 3/6 2-2 2/1c 1e-13 289-17 3-3 ",
    "l5-6 1oj-9 2 6n 4 h 37/22 2-7 6/1b 2-9 9-6 b-8 9-8 9-6 b-8 9-8 9-e 3-1h 2-2 5 2 4-3 2-2 5 ",
    "4-4 3-2 9-8 b-3 2-2 5 9e y-g 5 ng-q 1fr-1c 2 4-2 2/3 7 3 b/1e 9 2 5 d-12 2 6 nx0/n k/e 3s/7 ",
    "4/v b 2 3/5 5 5 2-2 3/a c/8 5 2 3/8 r nx t-28 fnl-7 d-5 tm-q y6-14 3t-10 4c-b 2-f 2-7 2-2 ",
    "1dw-1f 3i-m 27v-w gw1-w 1o-p o5r-y"]),
  (["defaultignorablecodepoint", "di"], String.join [
    "4t iq jx 283-2 190-2 2e-5 1ks-5 r-5 1e-g 3cl 14f0-g 6o 4h 28-9 119k-4 440-8 h406-35s"]),
  (["deprecated", "dep"], "95 10q 1s4 2 1m2-2 1qe-6 je-2 jh07"),
  (["emojicomponent", "ecomp"], "z 7 6-a 6ac 5y 17os 1c5z-q e4-5 14h-4 gw31-2o"),
  (["emojimodifier", "emod"], "2qrf-5"),
  (["emojimodifierbase", "ebase"], String.join [
    "7j1 64 h-4 2iyg 1p-3 3 3-3 3a-2 3-b m-j 4 5-3 2-3 8 2 p 5m-2 5 m 5-2 4v-3 4-5 2c h-3 a c g0 ",
    "3 9-8 7 a-a 3-3 1l 1q-2 2-2 2 i-3 2-d 6e-3 17-9"]),
  (["extender", "ext"], String.join [
    "53 ex-2 of ca hj 3u 2i kx 3k 1tw 1l h0 b3 1x 3uy 18-5 2w-2 2m-3 lxz 16f qr n 3u 31 m-2 gos ",
    "1ld-2 158 s 5 y0 86 39-2 dv-3 y8 n5 fah-2 wt-2 2 f-2 mdl-2 xe np-3"]),
  (["idcompatmathcontinue"], "4y-2 6 69j 4-b 2-f ac 5 n 2e8z q w q w q w q w q"),
  (["idcompatmathstart"], "6pu 5 n 2e8z q w q w q w q w q"),
  (["idsbinaryoperator", "idsb"], "9gw-2 3-a du"),
  (["idstrinaryoperator", "idst"], "9gy-2"),
  (["idsunaryoperator", "idsu"], "9ha-2"),
  (["logicalorderexception", "loe"], "2tc-5 3g-5 25t-3 3 smz-2 3 2-2"),
  (["modifiercombiningmark", "mcm"], "190-2 3 3o 7 4-2 de-2 2-3 4 w"),
  (["noncharactercodepoint", "nchar"], String.join [
    "1e4w-w en-2 1ekf-2 1ekf-2 1ekf-2 1ekf-2 1ekf-2 1ekf-2 1ekf-2 1ekf-2 1ekf-2 1ekf-2 1ekf-2 ",
    "1ekf-2 1ekf-2 1ekf-2 1ekf-2 1ekf-2"]),
  (["prependedconcatenationmark", "pcm"], "16o-6 60 1e ap-2 29 1g4b g"),
  (["radical"], "96o-q 2-2h d-5y"),
  (["regionalindicator", "ri"], "2qcm-q"),
  (["sentenceterminal", "sterm"], String.join [
    "x d h 11m 44-3 51 18-3 6v 1q 2 4-2 86-2 1d1-2 lz 5-2 li 5j-2 4e-2 1a 6 8r-2 9v-4 4j-2 b-2 ",
    "3-2 u-3 58-2 1u-2 px o-2 a-3 2i8-3 8j e n-2 by n3x 7j-2 6c 4 an-2 2f-2 2o 49-2 44-3 41-2 6y ",
    "g87 3-2 1o 4-2 4q d h 1u 25x-2 zi-5 19-4 5a-2 3a-4 3k-3 3m-2 7 h-2 2h-2 2-2 31 8b-2 3a-2 ",
    "ae-2 6-f 2y-2 6y-3 ee 2 70-2 2g-2 bp-2 j9-2 23-2 eui-2 3q 1u-2 c fe-2 89 fev 5wp"]),
  (["softdotted", "sd"], String.join [
    "2x-2 5h 7u v 1h l 8x 2r 2 4y2 1g e 4 3p 4e bq 5z-2 27n 2bom-2 1f-2 1f-2 1f-2 1f-2 1f-2 1f-2 ",
    "1f-2 1f-2 1f-2 1f-2 1f-2 1f-2 1on 8i-2 r"]),
  (["terminalpunctuation", "term"], String.join [
    "x b 2 c-2 4 n3 9 ea 1m 21 f 2-3 51 18-b 2 6k-2 1j-6 2-8 w 7a-2 z9-2 4t 5-6 8o-2 ly-8 li ",
    "3h-3 20-2 4e-3 4 14-4 3-2 8r-2 9v-4 4j-2 b-2 2-3 u-3 58-5 1r-2 px o-2 a-3 2i8-3 8j e 5 b ",
    "2-2 4-2 bx-2 n3w-2 7i-3 6c-5 an-2 2f-2 2o 48-3 44-3 3k h-2 6y g87 3-2 1m-3 2-4 4q b 2 c-2 4 ",
    "1u 3 u3 1d w7 5k 8n-2 49-6 1x-6 2i-4 qh-5 19-4 5a-7 35-4 3k-3 3m-2 7 h-2 2h-5 31 8b-2 3a-3 ",
    "d-2 9z-4 4-f 2y-2 6y-3 ee 2 70-2 2g-2 5-2 bj-3 1a hy-2 23-2 10s-5 dtm-2 3q 1u-3 b fe-2 88-2 ",
    "fev 5wo-4"]),
  (["unifiedideograph", "uideo"], String.join [
    "a9s-534 1t-g74 hsf-2 2 2-2 b 2 2-2 3-3 1fpz-wyo x-3dq 3-4ge 3-5rl g-ha 3hf-3t7 6-6ju"]),
  (["variationselector", "vs"], "4qz-3 2 19f5-g i9yp-6o")]

end Arbiter.Text
