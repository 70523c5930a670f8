/-!
# Ages

Which edition of the character set each character came with, as runs in the form that
`Arbiter.Text.Runs` reads.
-/

namespace Arbiter.Text

/-- The editions of the character set, in order, each with the characters it brought. -/
def ageTexts : List (String × String) := [
  ("1.1", String.join [
    "0-dy 5-u 1l-2h 8-1b 2-a n-1y r-2 j-2 5 4 6-7 2 2-k 2-18 2-7 4/4 2-i e-c 2-1u 2-c 2-15 a-1h ",
    "3-2 3-2 4-s 3-8 3-2 1k-12 3-7 2-13 2 13-a 2-9 d-r 6-5 o f 4 2-q 6-j e-e 3-20 3-5 2-f 2-u ",
    "3-a eg-3 2-1h 3-i 3-5 4-p h-3 2-8 3-2 3-m 2-7 2 4-4 3 2-7 3-2 3-3 a 5-2 2-5 3-l 8 3-6 5-2 ",
    "3-m 2-7 2-2 2-2 2-2 3 2-5 5-2 3-3 c-4 2 8-f d-3 2-7 2 2-3 2-m 2-7 2-2 2-5 3-a 2-3 2-3 3 g ",
    "6-a i-3 2-8 3-2 3-m 2-7 2-2 3-4 3-8 4-2 3-3 9-2 5-2 2-3 5-b i-2 2-6 4-3 2-4 4-2 2 2-2 4-2 ",
    "4-3 4-8 2-3 5-5 4-3 2-4 a g-c f-3 2-8 2-3 2-n 2-a 2-5 5-7 2-3 2-4 8-2 a-2 5-a j-2 2-8 2-3 ",
    "2-n 2-a 2-5 5-7 2-3 2-4 8-2 8 2-2 5-a j-2 2-8 2-3 2-n 2-g 5-6 3-3 2-4 a 9-2 5-a 42-1m 5-t ",
    "12-2 2 3-2 2 3 7-4 2-7 2-3 2 2 3-2 2-d 2-3 3-5 2 2-6 3-a 3-2 cj-12 b-13 5 5-2i 6-1w 6-2a ",
    "2dj-4b 6-2i 7-m 3-6 3-12 3-6 3-8 2/3 2-v 3-1h 2-f 2-e 3-6 2-j 3-3 2-9 2-1b 2-n 10-7 4-r i-b ",
    "12-i v-1l r-1c e-2j m-6q f 2-3d 3q-11 s-b m-3v m-46 b-28 h-k 7-2e 42-4 2-4 3-s 2-z 2 2-4 4 ",
    "2-7 3-7 f-v 4-o 2-e 1mq-1k 8 2-2c 5-6 3-2m 7-14 5-2m 2-g 2p-t 4-10 t-s 4-1e g-c 5-1b 2-3b ",
    "5-2r 3-v 54y-g4m cpn-566 5v-7 d-5 7-p 2-5 2 2-2 2-2 2-30 y-a5 h-1s 3-1i 15-c 11-4 d-l 5-a ",
    "2-j 2-4 5-3 2 2-3r 3 2-2m 3-2m 4-6 3-6 3-6 3-3 4-7 2-7 f-3"]),
  ("2.0", String.join [
    "13l-h 2-d l 1to-20 2-x 8-r 5-6 2 2-l 4-7 2 2xu eo rit-8mc 1mjf-2 1ekf-2 1ekf-2 1ekf-2 ",
    "1ekf-2 1ekf-2 1ekf-2 1ekf-2 1ekf-2 1ekf-2 1ekf-2 1ekf-2 1ekf-2 1ekf-2t4y"]),
  ("2.1", "6gc 1840"),
  ("3.0", String.join [
    "dy-4 v-8 3-i 3a-5 1e b-5 2g-9 k 39 4/4 v d 1v d 17-2 3-4 2l-2 4d 5l-3 2r-2 6 g 17-5 2-e 2-u ",
    "4-r 1i-1d 15e-2 2-i 4-o 2-9 2 3-7 4 5-6 2 2-8 j-3 ae 18 o-3 8 2-3 2-f 3 1d-y 2-5 2-2 2-7 ",
    "4-4 7-q br-7 2-1r 2 2-4 3-7 2 2-4 3-13 2 2-4 3-v 2 2-4 3-7 2 2-4 3-7 2-7 2-n 2-v 2 2-4 3-7 ",
    "2-13 2-j 7-s 10-2d d-hi a-t 4-29 40-2l 4-a n-f 2-a 7-2g 9-16 1hi p-6 2o-3 1f-2 2e-2 21 2w-9 ",
    "7i 3e 2-u 3v-2 cq-8 y 2f-2 b3-74 135-q 2-2h d-5y r-c 1p-3 4 9u-o g9-52u g97-wd 4-i 3-g 2-c ",
    "2-3 2 h1z yk-3"]),
  ("3.1", String.join [
    "s4-2 1dcr-w 101-v 2-4 d-r 52-12 3-12 148j-6u b-13 4-50 f7-2d 2-1z 2-2 3 3-2 3-4 2-c 2 2-4 ",
    "2-2 2-1t 2-4 3-8 2-7 2-s 2-4 2-5 2 4-7 2-9e 5-82 5-1e 7wh-wyf g16-f2 fhes v-2o"]),
  ("3.2", String.join [
    "f4 8f k-d 2x-2 t 44-2 1m-2 3-2 3-2 1e-g 9r-2 8y 1ty-2 16w-d 2-7 c-n a-k d-d 2-3 2-2 1qs 7-5 ",
    "5 8-5 e 1r-2 1f-7 2b-f 4p-c 6r-e 3h v-1g 7x-k 48-a 2h-8 n-2 2j-c 3-a 67-e 2j-s 5-g 75-e8 ",
    "118-3 2g-2 9-2 2n 6p-g 2a-f 2a-f mhv-2 h d 4 gvf-1n pe 4-g 1i-2 19 6k-2"]),
  ("4.0", String.join [
    "f5 j-3 3c-2 1s-h 29-8 6-3 48-5 ed-4 a-9 1t-3 46-2 g 1a-3 u-3 c5 55 1w 2 3t 2d-3 e 1w 1o ",
    "3m-8 5e-2 274 j-a 7b-t 4-c 5-c 5 4-16 3-5 30-w ld-30 ko-2 6f ic-2 8f 7p-2 39-8 f-2 v3-e ",
    "1e8-2 1e 18-2 27-4 4o-4 2s-2 w 535-1s yri 22-2 c8-c 2-q 2-j 2-2 2-f 3-e z-3f 6-3 5-19 4-9 ",
    "g1-u 2 3r-2 13-28 3-a nr-6 3 2-18 2-2 4 3 141t-2f a3 h3jz-6o"]),
  ("4.1", String.join [
    "fr-b 7r-5 4g-4 6v-2 4r z-3 1w j 1n-6 6q-u eo 29 dk 1c ru-2 88-2 2 7f 1s 1s 14 w w w g 14 ",
    "o-2 w-q 15z-16 7-q 7-a 5-2 x-s 3-2 nh-2g ia-2 2-7 1e-5 u-4 1i 29 g hx-b fx 2u-2 j-b 6-g ",
    "7j-7 nc-6 6l-1b 2-1b y-2z f-19 b-1i a h-n a-7 2-7 2-7 2-7 2-7 2-7 2-7 2-7 y-o 5-2 pv-g 4v ",
    "lk8-m 1fp-n 6i-18 g91-2y mv-a mf-23 eu-10 5-e 17v-4 2-2 6-8 2-3 2-r 5-3 5-9 9-9 13fs-1y ",
    "v3-2"]),
  ("5.0", String.join [
    "g2-e 8c-3 9e 17-6 h-4 4n ee-1n ap-2 2-2 o3-2 e-2 2ry-24 5-19 g8-7 1g-2 kt-4 2m-2 1i go-c jv ",
    "7p-4 ne-7 6-4 8t-d 8-4 o80-4 6-2 7z-1k j2h-q 6 4ip-of 42-2r e-4 yjx-i ux-2"]),
  ("5.1", String.join [
    "og-4 3-2 2g 54 3x-g 6b-5 c-5 x-5 8f-i du-2 67 10 5r u-2 31 31 r-2 9-2 l-8 5a 7 u-2 d-6 4-7 ",
    "do-2 2q 4-3 26 6 3 8-3 5-6 r-1s 5-2 1l7 k6-17 4-c 1z-1k 4-f 4-1f 98-s 52-4 2j-6 9x 3w 2n ",
    "1i-4 105 m-a 4-4 7d w-4 mk-5 5-15 4-5 7t-3 2-3 5-6 9v-w p-4 3-j l9 4j-k lp5-8 119-8c l-w ",
    "3-i 9-s 3o-5 3-2z 33-5 3l-1x a-c 13-2c c 4h-1j a-e 3-a 3-4 gjp-3 oa-c 1h-1a 3n-t 4-1d 18w-q ",
    "6 13hm 63b-18 5-2s"]),
  ("5.2", String.join [
    "10k-2 kb-1a 3-f 5e 26 7 10-2 3l 15m-4 5e-4 59-5 1x-5 2b-6 e9 hj-9 fl-1y 51-2 1b 1y-1r 2-t ",
    "3-b 7-a 7-e f7-z 7f jd-3 48-3 1j gv ja-2 u-3 5-a 2-j 2 5-o 2g se-5 7r e-2 30-7 8w sz-c ",
    "lmd-8 zp-1c bl-2g 8p-a 4n-s 2t-t 4-26 2-b 5-2 3l-s 5-1v p-5 69-1a 3-a 8mv-n 5-1d 6sw-3 ",
    "2qb-m 2-9 57-2 91-w 3l-1i 4-t 3-r 6-8 3l-21 ew-v ea-1u 667-tr 11aq-b 6-v 3 c 2 3 4 4-5 9 8 ",
    "q 2-2 3 b-4 3 34 g-y f-9 zp4-379"]),
  ("6.0", String.join [
    "10m-2 6x 1r dd-s 3 64-2 k 7-2 s-5 e3-6 c2 h k fy-4 22-2 oz-2 1nm-1g 9-4 e5 ih-8 t mo-b kb k ",
    "2-4 u 5-2 t 10 2 5-3 a-2 1h-3 p f f-2 141 f u1-3 n1i-2 8c-2 2-2 f-a 29 lj-6 3-6 3-6 a-7 2-7 ",
    "fwk-g 3zz-26 5-u hap-ft ds8-2 crj-f 3-e 3-f 2-f 29 2-b 2 2-2 2-3 2-3 6-8 2-7 2-a 7-9 2 3-2 ",
    "2-a 5-2 2-a 24-q 2-2 1c-9 m-2 4v-x g-6 2-1y 4-k d-11 2-5 m-h g-1r 2 2-52 2-4 4-1q j-o 44-5 ",
    "2-g 2-3 2/3 2-3 2-6 3-4 2 3-4 2-c 5-b 1d-1y 1n-38 11vx-66"]),
  ("6.1", String.join [
    "13j 39 ik 2-b 1k-r du ry-2 dk 6 1c-3 23w-3 d-6 75-8 18-4 251 2 10l-2 1g 6 1l-2 5n-a mfl ",
    "1bc-8 10 6r-2 n 26-2 kn-n fnc-2 30x-1k 7-2 1e9-p 8-a 7-1h 2-e 1p-21 8-a x3-1k 9-a hfb-1x ",
    "c-1b h-h oyp-4 2-r 2-2 2 3 2-a 2-4 2 2 7 5/3 2-3 2-2 2 3/5 2-2 2 3-4 2-7 2-4 2-4 2 2-a 2-h ",
    "6-3 2-5 2-h 1h-2 hl-2 r9-4 59 h 4/4 4 7-2 5 2-2 5"]),
  ("6.2", "6gq"),
  ("6.3", "17g 56y-4"),
  ("7.0", String.join [
    "ov bt-8 2m-2 3b ik c-6 25 3d 8 hs 1g 25 3k 6d-a 1s2-8 f9-2 b6-f fu-2 6m-f jq-3 mv-7 li ul-3 ",
    "b-q 3-w 3-y 4-c 2-8 h7-7 nrq-6 6v-c c-3 3-2 1y dl-v 3i-4 4x-1c 5-2 gci-7 ny-2 k 8w-s 10 ",
    "1d-17 au-14 9-1g c 41-8n a-m b-8 6x-1r 9-9 cx-w x-13 5-c 3u-i 8-4 d-7 y8 5t-13 2f d 7-k c-i ",
    "2-17 37-1n 6-a 8-3 2-8 3-2 3-m 2-7 2-2 2-5 3-9 3-2 3-3 a 6-7 3-7 4-5 7g-20 9-a 4n-1i 3-i ",
    "1j-1x c-a g7-2b d ch-1l 1o7-16 5n-c 6 dsc-v 2-a 5-2 2p-u 3-6 b-1y b-a 2-7 2-l 6-j fw1-2z ",
    "6-d 4-9 8-a 3-8 8kd-5h 3-g 1k9 x-m m-2 et-c a 1z n-c 12 6-4 6-c i-7 20 2 53 5-2 1s-2 5-7 ",
    "u-i 2-15 2-2e 1z-2 e-1c 1z-a h-d 4-4 3x-2d 18-c 5-1k 9-a 7-14 9-u"]),
  ("8.0", String.join [
    "1pv-2 1b eu 9t 79 1au 3-6 2ip 5o-2 21t-4 mvy-9 1c9 6p z-6 91-2 gz-4 d-28 ga7-2 241-j 2-2 ",
    "6-5 59-2 3-g 3-1a ht-1f e-1f 8-6 y2-4 f-5 4h-7 2 2-4 2-f 2-b 2f 28 hm-k 83-q 4-f 5-g 2fu ",
    "6f-5g 62l-g7 rko-b 17c-i4 g-5 2-f 4u6-3 27-2 28-5 11-8 74 24-5 6s-2 3w g0-9 2w-5 1o ",
    "11ls-4g2"]),
  ("9.0", String.join [
    "1py-8 n-f pq 5r 5-3 2-7 o-3 2yw-9 ab 16o-4 211-2 nze 7r hjc-2 ma-10 5-10 2mb ci-2i 2 2 eb-d ",
    "13o-9 2-19 2-e b-t 4-w 3-m 2-e gfe w-4q5 k-kz gsu-7 2-h 3-7 2-2 2-5 1qu-23 6-a 5-2 1mk-i 3z ",
    "n3 16 8d-2 y-3 f7-6 2-8 9 3-c 2-c 5-f 13-d"]),
  ("10.0", String.join [
    "1nk-b b6-2 71-6 e9 1n-2 33v 73-4 jq n4 1jn hf-5 kl luw-l jlv-3 4i9-20 9-1g 3-n 2-5 gu-7 2-2 ",
    "2-18 4 2-2 2-9 9-a gaw co1-7x 2a-b0 cit-6 vi-2 z-2 eg-c k 9-8 2-2 q j-d 13-6 1l-n 1616-5rl"]),
  ("11.0", String.join [
    "128 14 2v em-3 5w 8b 3c b2 3k 2d0 t4-17 3-3 2yj-3 n-p 5-f gc-5 kh lvg-5 1j4 9-2 91-2 j79-2 ",
    "j jc-14 9-a cn-14 9-16 ac 3b-3 dx 83 jg 6e-1o gy jn-6 2-2 2-11 2-2 2-6 8-a 8n-p fns-2j ",
    "503-5 esv-k 3j-7 4xl-1w vv 156 64-4 ad-3 t-5 3-4 4 2-4 p-b e-a 8-2 11-p 2p-e"]),
  ("12.0", String.join [
    "2gn en 3 3 2-6 5 8 8-2 3 e 2tc 2xb 1i gg nzf-6 3-5 ps-2 juh-n vd gp ko-8 3-1a 3-b 4g-2 ",
    "117-1e e 3zl-9 bnx-6 5 1c-9 2j-2 4r3-6 861-3 i-4 9eh-19 4-e 3-a 5-2 a9-1m 6 18s qe-1p tr ",
    "12h 11 6e-c 82-3 1c 1e a 16-6 4-2 b-6 4-8 3-3 1d-2c t-4 5-3 6-3 e-6"]),
  ("12.1", "a2n"),
  ("13.0", String.join [
    "1q6-a i6 bz 3h 2m6-2 3br jd-3 o9-5 5iv-a g8h-d 1jf-4 17-2 1i n0-4 h0x 2jo-16 2-3 3-2 73-s ",
    "ak 3r-2 i3 6-2 wv-7 3 3-8 2-2 2-u 2-2 3-c a-a 193 fuc c-2 5c2-df 17-9 jr9-3 2m-3 1q 10p-2 ",
    "10-2 c4-2 2j 2u 5-2 17-2 7-3 u 4p f-4 g-j 8-7 a-3 e-7 16-43 2-1j 12-a xr2-7 hlv-3t7"]),
  ("14.0", String.join [
    "17h gj-v 2-2 7-8 m j-b oa x 3k 20g 8 a 6o j6-e 3i 1d-2 ho jq 29b 1c dw-b mg0-3 1j5-2 f-2 2 ",
    "2-5 p-3 gjy am-g 3k 1b-2 1gx-b 2-f 2-7 2-2 2-b 2-f 2-7 2-2 ck-6 2-16 2-9 1iu-q 6f-6 25 16f ",
    "3r-7 oa-g 441-2r bjy-27 2-a dnr-4 2-7 2-2 81-4 5we-1a 3-n a-38 fa-2 2l2-v oi-v 10y-7 2-4 ",
    "2-2 2-f 2xr-3 7l ax 2b 4v-2 19-4 b-4 9-3 i-3 7-8 9-7 xyg-2 386-4"]),
  ("15.0", String.join [
    "2k3 d7 1elr-3 n4-3 1q7-a s7-h 2-15 4-s 446 a-t onx z 6ln-k 2fm-6 7a-1q y u9-16 3j7 48-3 5-5 ",
    "2i ik-3 g-2 11-3 c-3 2 f-2 b-2 d f-2 116p i6v-38g"]),
  ("15.1", "9h8-4 ds 3tvl-ha"),
  ("16.0", String.join [
    "1p3 3p3-2 1c 7e-2 1i5-3 2pn-2 nae-3 d-3 ijo-1g 1fx-12 4-t 9-2 8j-3 1k w4-a 2 3 2-12 2-a 2 3 ",
    "2-4 2-a 2-2 9-2 ku-k yl-y f-a o1 45i-32z 5qe-1m 2dj-1m 686 cg1-6y 7-c4 4kd-17 5 3oz-a 5-2 ",
    "co 6 1b 8 m 3 a 6a-11"]),
  ("17.0", String.join [
    "1ov r1 3k 2r7-f 3-c 15i 251 ojc-2 3 2 t gk2-g ce-2 1j-7 29e-q 12k-3 9-9 y-2 2g5-8 g9-18 5-a ",
    "fxz-p 3-p 7z-5 4qq-8 zu-m 2q-37 cg8-3 ce-n g-h 4pc-v 2-m 9-2 34p 4f-4 9i-9 ak-4 1f 4 1m 5 t ",
    "5 7f 10zk-6 4mb-c gsj-3be"])]

end Arbiter.Text
