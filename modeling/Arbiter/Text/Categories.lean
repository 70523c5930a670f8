/-!
# General categories

The characters of each general category of the character set, as runs in the form that
`Arbiter.Text.Runs` reads.
-/

namespace Arbiter.Text

/-- The runs of every general category, by its two-letter name; surrogates are not characters. -/
def categoryTexts : List (String × String) := [
  ("Lu", String.join [
    "1t-q 2u-n 2-7 y/s 3/8 3/n 2-2 2 2 4-2 2 2-2 2-3 3-4 2-2 2-3 4-2 2-2 2/2 2-2 2 3 2-2 2-3 2 ",
    "2-2 4 8 3 3 3/8 3/9 3 3 2-3 2/t 8-2 2-2 3 2-4 2/4 82 2 4 9 7 2-3 2 2-2 2-h 2-9 10 3-3 4/c 6 ",
    "3 2-2 3-1f 1d/h a/r 2-2 2/6 3/1c 3-12 28a-12 2 6 k3-2e 1p0 7-17 3-3 8x/23 a/1d a-8 9-6 b-8 ",
    "9-8 9-6 c/4 9-8 21-4 d-4 d-4 d-5 c-4 7b 5 4-3 3-3 3 4-5 7/3 2-4 3-4 b-2 6 1q 22l-1c 1d 2-3 ",
    "3/3 2-4 2 3 9-3 2/1d 9 2 5 nym/n k/e 3s/7 4/v b/2 2-2 2/4 5 2 3 2 4/a 2-5 2-5 2/7 2-4 2 2-2 ",
    "2/8 p h7w-q xy-14 3t-10 4d-b 2-f 2-7 2-2 1d7-1f 4e-m 27v-w gw1-w 1t-p k08-q r-q r-q r 2-2 3 ",
    "3-2 3-4 2-8 r-q r-2 2-4 3-8 2-7 s-2 2-4 2-5 2 4-7 s-q r-q r-q r-q r-q r-q v-p y-p y-p y-p ",
    "y-p y 3ee-y"]),
  ("Ll", String.join [
    "2p-q 1n 16-o 2-8 2/r 2-2 2/7 2-2 2/n 3/2 2-3 3 2 3 4-2 5 3 4-3 3 3/3 3 2-2 2 3 4 2 3-2 3-3 ",
    "7 3 3/8 2-2 2/8 2-2 3 2 4/t 2-7 3 3-2 2 5/4 2-1x 3-q 5e 2 4 4-3 j s-z 2-2 4-3 2/b 2-5 2 3 ",
    "3-2 1g-1c 2/h a/r 3/6 2-2 2/1c 1d-15 288-17 3-3 l5-6 1oj-9 2 3a-18 1s-d 2-y 2v/22 2-9 2/1c ",
    "2-9 9-6 b-8 9-8 9-6 b-8 9-8 9-e 3-8 9-8 9-8 9-5 2-2 7 4-3 2-2 9-4 3-2 9-8 b-3 2-2 7n 4-2 4 ",
    "s 5 5 3-2 9-4 5 1i 23w-1c 2 4-2 2/3 5 2-2 2-6 6/1d 2-2 8 2 5 d-12 2 6 nx0/n k/e 3s/6 2-3 ",
    "2/v 2-8 2 2 3/5 5 2 3 2-3 2/a 6 6/8 5 2 3/8 r 4 mu-17 6-9 8-28 fnl-7 d-5 tm-q y6-14 3t-10 ",
    "4c-b 2-f 2-7 2-2 1dw-1f 3i-m 27v-w gw1-w 1o-p k07-q r-7 2-i r-q r-4 2 2-7 2-b r-q r-q r-q ",
    "r-q r-q r-q r-q r-q r-s t-p 2-6 r-p 2-6 r-p 2-6 r-p 2-6 r-p 2-6 2 1f9-a 2-k 7-6 1yw-y"]),
  ("Lt", "cl 3 3 13 5ue-8 9-8 9-8 d g 1c"),
  ("Lm", String.join [
    "j4-i 5-c f-5 8 2 3q 6 db 6f 4l-2 7i-2 5 w a 4 4h 4o yd 3k fq 1cr 30 h0 cx-6 4v-1r e z-11 j6 ",
    "e h-d 2cg-2 6q 5c d2 18-5 6 2q-2 2m-3 lxz yr-6 7j 37 t-2 3e-9 29 o 2x-4 4-2 d2 n 3u 31 m-2 ",
    "2w-4 a glj 1a-2 1k1-6 2-16 2-9 13o x 9i 2z8 faf-4 e5-3 15-2 fb-d 1t-2 2 f-2 cn1-4 2-7 2-2 ",
    "9iq-1q 5m-7 q6 es gc"]),
  ("Lo", String.join [
    "4q g 75 5-4 5t-2 mz-r 5-4 1a-w 2-a 10-2 2-2r 2 p-2 b-3 3 h 2-u u-2h c p-x m-m 17-p 8-b 6-o ",
    "2-7 h-15 1o-1i 4 j 8-a h-f 5-8 3-2 3-m 2-7 2 4-4 4 h e-2 2-3 f-2 b 9-6 5-2 3-m 2-7 2-2 2-2 ",
    "2-2 w-4 2 k-3 h-9 2-3 2-m 2-7 2-2 2-5 4 j g-2 o c-8 3-2 3-m 2-7 2-2 2-5 4 v-2 2-3 g i 2-6 ",
    "4-3 2-4 4-2 2 2-2 4-2 4-3 4-c n 1h-8 2-3 2-n 2-g 4 r-3 2-2 3-2 v 5-8 2-3 2-n 2-a 2-5 4 v-3 ",
    "2-2 g-2 i-9 2-3 2-15 3 h 6-3 9-3 p-6 6-i 4-o 2-9 2 3-7 1n-1c 2-2 d-6 1o-2 2 2-5 2-o 2 2-a ",
    "2-2 a 3-5 o-4 x 1s-8 2-10 s-5 38-17 l h-6 5-4 4 4-2 8-3 5-d d 36-95 2-4 3-7 2 2-4 3-15 2-4 ",
    "3-x 2-4 3-7 2 2-4 3-f 2-1l 2-4 3-1v 12-g 36-h8 3-h 2-q 6-23 7-8 8-i e-j f-i f-d 2-3 g-1g 15 ",
    "1w-z 2-1h 8-5 3-y 2 6-1y b-v 1e-u 3-5 c-18 5-q 1j-n a-1h 4x-1b i-8 1j-u e-2 b-18 r-10 16-3 ",
    "b-u 36-4 2-6 2-2 4 u3-4 2d4-1k p-n a-7 2-7 2-7 2-7 2-7 2-7 2-7 2-7 fc 1i 5-2e 9 2-2i 5 6-17 ",
    "2-2m i-w 1d-g e9-534 1t-g7p 2-vr 1w-14 9-7g 5-g b-2 1v 1e-1y 4q 2w 4-7 2-3 2-4 2-n u-1g ",
    "f-1e 1r-6 4 2-2 c-s b-n q-t 8-1b 1a-5 3-9 b-5 2-15 o-3 2-8 l-g 2-6 4 4-1e 2 4-2 3-5 3 2 p-2 ",
    "4-b 8 f-6 3-6 3-6 a-7 2-7 42-z u-8mc d-n 5-1d 6it-a6 3-2y 1w 2-a 2-d 2-5 2 2-2 2-2 2-30 ",
    "y-a3 j-1s 3-1i 15-c 39-5 2-3r 2y-a 2-19 3-v 4-6 3-6 3-6 3-3 10-c 2-q 2-j 2-2 2-f 3-e z-3f ",
    "au-t 4-1d 1c-w e-k 2-8 7-12 b-u 3-10 5-8 3l-26 2r-14 9-1g 2l-1g d-8n a-m b-8 49-6 3 2-18 ",
    "2-2 4 3-n b-n a-v 1u-j 2-2 b-m b-q 7-q 13-1k 7-2 1t g-4 2-3 2-t 17-t 4-t 10-8 2-s s-1i b-m ",
    "b-j e-i 33-21 54-10 13-4 2 8h-16 7-2 h-3 2-2 1l-t b 9-m 17-i 1b-l s-n d-1h 1m-2 3 e-19 x-p ",
    "r-10 u 3 9-z 4 d-1c f-4 m 2 10-i 2-p k-2 1s-7 2 2-4 2-f 2-a 8-1b 13-8 3-2 3-m 2-7 2-2 2-5 4 ",
    "j d-5 v-a 2 3 2-12 2 q 2 19-1h j-4 l-3 v-1c l-2 2 55-1b 16-4 11-1c l 1o-17 e 20-r 12-7 ",
    "56-18 5w-8 3 3-8 2-2 2-o g 2 2n-8 3-13 h 2 t b-14 8 m c-1a k j-21 5k-x w-9 2-11 i 1e-u 35-7 ",
    "2-2 2-12 m q-6 2-2 2-w f o-15 2-2 79-j g 2-d 2-y 3h 28-pm 6f-5g 219-2p g-ts i-6 q-32z 6-g7 ",
    "5a2-u 1cz-ft 8-v i-27 i-u j-1c 1g-l 6-j c4-14 ba-23 6 4w-5p2 16-w 2q-37 6q6-83 g u-3 3 f-4 ",
    "9-b0 1s5-2z 6-d 4-9 8-a 6sx dy-19 y 8y-u j-18 dh-r 6e-u 3 5s-v 2-3 2-2 2-7 3-5 a 6a-7 2-4 ",
    "2-2 2-f 2-5h 118-4 2-r 2-2 2 3 2-a 2-4 2 2 7 5/3 2-3 2-2 2 3/5 2-2 2 3-4 2-7 2-4 2-4 2 2-a ",
    "2-h 6-3 2-5 2-h 3et-wyo x-3dq 3-4ge 3-5rl g-ha 1wj-f2 15v-3t7 6-6ju"]),
  ("Mn", String.join [
    "lc-34 7o-5 7e-19 2 2-2 2-2 2 21-b 1d-l h 2u-7 3-6 3-2 2-4 10 v-r 2k-b 1n-9 a p-4 2-9 2-3 ",
    "2-5 18-3 1o-9 17-o 2-w 1k 2 5-8 5 4-7 b-2 u 1n 5-4 9 l-2 r 3-2 1m 5-2 5-2 3-3 4 v-2 4 c-2 ",
    "1m 5-5 2-2 5 l-2 n-6 2 1n 3 2-4 9 8-2 c-2 v 1q d 1f 4 1k 2-3 6-3 2-4 8-2 c-2 u 1n 3 7 6-2 ",
    "l-2 t-2 1m-2 5-4 9 l-2 u 21 8-3 2 2j 3-7 d-8 2r 3-9 c-7 22-2 s/3 1k-e 2-5 2-2 6-b 2-10 a ",
    "2v-4 2-6 2-2 3-2 q-2 5-3 h-4 e 3-2 7 g jk-3 qb-3 u-2 v-2 v-2 1t-2 2-7 9 3-b a 1a-3 2 3a-2 z ",
    "3b-3 5-2 a 7-3 64-2 3 1n 2-7 2 2 3-8 7-a 3 1d-e 2-v 3-c l-4 1d 2-5 2 6 15-9 d-2 x-4 3-2 2-3 ",
    "1l 2-2 4 2-3 1n-8 3-2 49-3 2-d 2-7 5 7 4-2 5j-1s k1-d 5 4-c 2db-3 3y 2p-w ff-4 30-2 n9x 5-a ",
    "x-2 29-2 7l 4 5 q-2 6 48-2 r-i e 13-8 q-b 1b-3 1d 3-4 3-2 14 1w-6 3-2 3-2 d 9 1c 1g 2-3 3-2 ",
    "6-2 2 17-2 9 6n 3 5 fn5 ki-g h-g r2 6b 46-5 1af-3 2-2 6-4 15-3 5 4m-2 fy-4 1u-5 8u-2 26-6 ",
    "1z-b 1e-4 3g 1j-f 16 3-2 b-3 1e-4 3-2 8 1q-3 11-5 2-8 1r d-2 1h-9 b-4 3 2o-3 3 2-2 7 3 4e ",
    "4-8 m-2 1m-2 4 12-7 4-5 1z-6 e/3 f-2 2e-8 3-3 2 o 2d-6 2 5-2 2-2 6n-4 7-2 2-2 s-2 2e-8 3 ",
    "2-2 2z 2 3-6 2 2u 2 3-4 2-5 78-9 2-2 75-2 2 5 41-4 3-2 5 x-a 15-6 3-4 9 a-6 3-3 1b-d 2-2 5j ",
    "2-3 2 5m-7 2-6 2 2b-m 3-7 2-2 2-2 3f-6 4 2-2 2-7 2 21-2 4 2 9o-2 c-2 1h-5 6 2 o 44m 7-f ",
    "8uh-c 4-3 1xd-5 1o-7 t5 1s-4 2a f5l-2 3mq-1a 3-n f5-3 i-8 3-7 v-4 45-3 1j0-1j 5-1e 9 f n-5 ",
    "2-f 11t-7 2-h 3-7 2-2 2-5 2t 4h-7 ag 1q-4 e5-4 73-2 6s 3 8-2 6 d7-7 32-7 gzhy-6o"]),
  ("Mc", String.join [
    "1s3 1k 3-3 9-4 2-2 1f-2 1n-3 7-2 3-2 b 18 1n-3 1v 1n-3 9 2-2 1i-2 1n 2 7-2 3-2 b 2v-2 2-2 ",
    "4-3 2-3 b 16-3 1q-4 1q-2 1n 2-5 3-2 2-2 a-2 t f-2 1n-3 6-3 2-3 b 17-2 24-3 7-8 j-2 97-2 1s ",
    "4s-2 5 7 3-2 q-2 b-3 3-7 m-2 3-6 3 b-3 1a1 v 3m 8-8 2-2 9n-4 3-3 5-2 2-6 69-2 1n 2 a 2-2 ",
    "9-6 42 1d 6 2-5 2-2 1q v 5-2 3 1p 3-3 2 4-2 1d-8 9-2 4s m 3sn-2 np0-2 3 2h-2 1f-g 3z-2 1c ",
    "1d-2 5-2 3-3 33-2 3-2 p 1a 2 32 3-2 6 6m-2 2-2 2-2 2 jro 2 3k 1a-3 5-2 38 p-2 1o 1d-3 a-2 e ",
    "2m-3 4-2 2 4r-3 w-2 1n-2 2-4 3-2 3-3 a b-2 2d-3 8 3 2-4 2-2 2 2u-3 9-2 4 2z-3 7 2-4 3 6m-3 ",
    "7-4 3 36-3 9-2 2 32 2-2 7 2w 2-2 5 7a-3 a 6w-6 2-2 5 3 2 3z-3 9-4 5 2d u-2 1r 5m 4 2 5k f ",
    "2z 8 3 5y-5 5-2 2 9r-2 d 1d-2 9-2 2 d0p-3 2sl-1j 2x-2 j90-2 7-6"]),
  ("Me", "w8-2 4dx 17j-4 2-3 qdo-3"),
  ("Nd", String.join [
    "1c-a 17r-a 3r-a 5j-a bh-a 3b-a 3b-a 3b-a 3b-a 3b-a 3b-a 3b-a 3b-a 3b-a 2p-a 3b-a 1z-a 7r-a ",
    "1z-a 1fr-a 13-a 8d-a 3l-a 4n-a 7-a 53-a 2f-a 3r-a 7-a r7r-a iv-a 13-a 5j-a n-a 2f-a bb-a ",
    "gev-a 13b-a 1on-a 7-a m5-a 3l-a 1p-a 41-a 7r-a 9j-a 3b-a af-a 2v-a 7-k 25-a br-a 2v-a if-a ",
    "2f-a 6v-a 1z-a 1j-a 9z-a d07-a 1t3-a 2f-a 3r-a ev-a iuv-a 251-1e 1tt-a br-a dz-a 6w-a nq-a ",
    "3o7-a"]),
  ("Nl", "4j2-3 228-z 3-4 2v3 q-9 f-3 nfw-a hu9-1h ct 9 3r-5 6cr-33 ex2-3"),
  ("No", String.join [
    "4y-2 6 3-3 1ti-6 ah-6 3d-3 3q-7 62-7 i-9 c2-a ty-k vo-a dd 1au 4-6 7-a 5j-g 16 k7-1o 27-m ",
    "hj-u 12i wl-4 3v-a v-8 2-f x-a 14-f n75-6 hjm-19 1u-4 i-2 9i-r 11-4 111-8 q-7 14-9 24-5 n-6 ",
    "4h-2 3-g 3-1a 1t-9 1h-2 v-3 24-5 2x-8 p-8 16-7 97-6 9t-v 4f-a 17-4 35-7 3r-k ak-k 11i-2 ",
    "bz-9 o8-j no-l ex3-7 m7-n jsa-k d-k 31-p 47j-9 pu-1n 2-3 2-4 25-19 2-f qr-d"]),
  ("Pc", "2n 6ao-2 k 17tr-2 p-3 6o"),
  ("Pd", "19 125 1g 2te sm 1l6-6 2rm 3 w-2 5 t cf k 34 14lt-2 12 b 4q 2u9 8v"),
  ("Ps", String.join [
    "14 1f w 2wv 2 1gf 1vj 4 13 1k g hn 2 v u7/7 29 x/5 b9/b 1t 2 y ti/4 q j/4 bx/5 4/4 3 14iq ",
    "60 u/8 4 i/3 4r 1f w 4 3"]),
  ("Pe", String.join [
    "15 1g w 2wu 2 1gf 1wq 1k g hn 2 v u7/7 29 x/5 b9/b 1t 2 y ti/4 19/4 bx/5 4/4 3-2 14in 62 ",
    "u/8 4 i/3 4r 1g w 3 3"]),
  ("Pi", "4r 67h 3-2 3 q 2q1 2 5 3 g 4"),
  ("Pf", "57 672 4 t 2q1 2 5 3 g 4"),
  ("Po", String.join [
    "x-3 2-3 3/2 2-2 b-2 4-2 s 1x 6 f-2 8 jj 9 cz-6 16 1j 3 3 19-2 l-2 2-2 e 2-3 23-4 2v 18-e ",
    "6i-3 1j-f w 7a-2 b 3x 3d 3e av d a8 2j b-2 4p-f 2 35 23-5 5-2 34-6 4s h1-9 li 3h-3 20-2 ",
    "4e-3 2-3 12-6 2-4 8q-2 61-2 3l-7 2-6 4h-2 b-7 t-3 3h-4 1o-5 1r-2 1t-8 c n7-2 9-8 9-9 3-4 ",
    "3-3 4-b 2 2-a 2hn-4 2-2 35 40-2 5-3 3 3-9 2-2 2 3-2 b-5 2-a 3-4 2 2-d 3-3 bx-3 1m 5a mwz-2 ",
    "7i-3 2s b 38-6 al-4 2f-2 15-3 2 1e-2 1c 2q-d h-2 3h-4 3j-2 h-2 6y g85-7 3 n l-2 3-4 4-3 2-4 ",
    "8-3 7 2-2 46-3 2-3 3/2 2-2 b-2 4-2 s 11 3-2 bf-3 il 1d bj ko 5k w 7l-9 13 35-7 1v-7 2i-4 ms ",
    "3p-5 19-4 5a-7 32-2 2-4 3j-4 1d-2 28-4 5 e 2-3 2h-6 30 8b-2 2-2 37-5 b-2 2 2x 6z-n 2y-3 t-d ",
    "25 3n-3 71 7d-3 4c 2l-8 2c-3 2-5 2m-a 60 2o-5 17-2 hy-2 23-d 4w vl-5 29p-2 bjw-2 3q 1u-5 9 ",
    "fd-3 88-4 94 f5p 5wo-5 29g nz-2"]),
  ("Sm", String.join [
    "17 h-3 1q 2 1a 5 12 w lb eo-3 56k e 14-3 e-3 3w 14-5 7 1x-5 6-2 5 3 3 8 w-2 3 2 w-7g x-2 2j ",
    "v-p 15-6 d2 a 1j-8 34 9d-5 3-v b-g 75-3n n-1r 5-w 3-76 1d-l 3-6 1525 mx 2-3 4l h-3 1q 2 3o ",
    "7-4 2oy-2 1275 1jl q w q w q w q w q 4kt-2 1y7-9"]),
  ("Sc", "10 3i-4 yy 3g dv-2 dv-2 8 6u 7c g6 1wc 1qd-y qrb gxw 31 4b 64-2 4-2 6bb-4 12jj 1wx"),
  ("Sk", String.join [
    "2m 2 20 7 5 4 ei-4 d-e 6-7 2 2-h 3a f-2 zn 4l1 2-3 c-3 e-3 e-3 e-2 3a5-2 ndw-n a-2 2w-2 r5 ",
    "f-2 fuv-h os 2 4j 1c7s-5"]),
  ("So", String.join [
    "4m 3 5 2 r6 7f-2 3k-2 5r b k-2 6w ec ae 3n-6 2 3p 5s 16 aw-3 g 2-3 3-6 l/3 3q-8 2-6 2-2 6-4 ",
    "5i-2 kx-a k4 k3 4e-y 9u-a a-9 138-2 2-4 2-2 b 2-2 7-6 2/3 5 c-2 f 2-2 2 1n-2 a-5 3-4 2-2 ",
    "2-2 2-7 2-v 3-2 2 2-v 7h-8 5-k 3-7 3-29 2-u q-14 7-20 n-b 2a-26 n-53 2-9 2-1i 9-33 2-6w ",
    "19-18 1t-74 e9-1c m-2 7-13 3-3u 6e-6 9y-2 1b-q 2-2h d-5y r-g 5 e-2 d m-2 7-2 9d-2 5-a x-12 ",
    "a h-v c-u 9 g-w b-13 g-8w 535-1s h3l-1j o2-4 b-2 2 fy-3 g22-g a6-g 1t-2 1j-8 1a-3 dh 4 5-2 ",
    "e-2 8q-9 1m-h 3-3 2-d 4 1c-19 1a3-2 gg sp-8 1nr 1p2-8 5-h evf-4 6 g2f 31g-6o b-3 4-c4 7-n ",
    "g-g 2p-38 1p-6u b-13 3-1o 6-3 n-2 8-u 5-1p m-1u 4 57-2f x6-e8 1k-4 1f-8 2-e 2-2 1c9 28t 3m ",
    "k2-18 5-2s d-f 3-f 2-f 2-11 o-4h 1l-t e-18 5-9 8-2 f-6 4b-6z 6-k9 4-h 4-d 4-62 7-c 5 g-c ",
    "5-1k 9-a 7-14 9-u 3-c 5-2 1r-9k 9-e 3-d 4-b 4-1l 2 5-g 3-c 5-a 8-43 2-2k b"]),
  ("Zs", "w 3k 4bk 1vk-b 11 1c 335"),
  ("Zl", "6co"),
  ("Zp", "6cp"),
  ("Cc", "0-w 2o-x"),
  ("Cf", "4t 11v-6 n 5d 1e ap-2 29 2zw 1kt-5 r-5 1e-5 2-a 17yo 6y-3 3b6 g 6zn-g qxt-4 440-8 h407 v-2o"),
  ("Co", "188w-4xs jpc1-1eke 3-1eke"),
  ("Cn", String.join [
    "oo-2 7-4 8 2 l b2 13-2 1f-2 4 1k-8 s-4 7-b 7j 1p-2 2u-e 1o-2 1e-2 g t-2 2 c-5 z-5 6m 9-2 ",
    "3-2 n 8 2-3 5-2 a-2 3-2 5-8 2-4 3 6-2 q-2 4 7-4 3-2 n 8 3 3 3-2 2 6-4 3-2 4-3 2-7 5 2-7 i-a ",
    "4 a 4 n 8 3 6-2 b 4 4-2 2-f 5-2 d-7 8 4 9-2 3-2 n 8 3 6-2 a-2 3-2 4-7 4-4 3 6-2 j-a 3 7-3 4 ",
    "5-3 3 2 3-3 3-3 4-3 d-4 6-3 4 5-2 2-6 2-e m-5 e 4 o h-2 a 4 5-7 3 4 3-2 5-2 b-7 n 4 o b 6-2 ",
    "a 4 5-7 3-5 4 5-2 b 4-c e 4 1g 4 7-4 h-2 r 4 j-3 p a 2-2 8-3 2-4 7 2 9-6 b-2 4-c 1n-4 u-11 ",
    "3 2 6 p 2 o-2 6 2 8 b-2 5-w 21 11-4 14 11 g e-11 5j 2-5 2-2 ai 5-2 8 2 5-2 16 5-2 y 5-2 8 2 ",
    "5-2 g 1m 5-2 1w-2 x-3 r-6 2f-2 7-2 im-3 2i-7 n-9 p-9 l-c e 4 3-c 2n-2 b-6 b-6 r-6 2i-7 18-5 ",
    "1z-a w d-4 d-4 2-3 17-2 6-b 19-4 r-6 c-3 1r-2 1u u-2 c-6 b-6 f-2 1b-2 d-k 26 4n-8 1p-3 g-3 ",
    "1r-5 18-2 c-8 18-5 ev-2 7-2 13-2 7-2 9/4 w-2 1i g f-2 7 k-2 4 a 2u d-2 s e-3 z-e y-f 3x-4 ",
    "ij-m c-l 1ed-2 an-5 1a 2-5 2-2 1l-7 3-e p-9 8 8 8 8 8 8 8 8 3j-y r 2i-c 5z-q 29 2f-2 2w-5 ",
    "18 2n 2f-9 1d mlq-3 1k-9 9p-k 55-8 66-k 1p-3 b-6 1l-8 1z-8 d-6 39-b v-3 27 c-4 y 1k-9 f-2 ",
    "b-2 2w-o t-a 7-2 7-2 7-9 8 8 1p-4 3j-2 b-6 8md-c o-4 1e-4 6sv-2 2z-12 8-c 6-5 r 6 2 3 3 ",
    "i3-w 17-6 1g k 5-4 6 3s-2 2 5b-3 7-2 7-2 7-2 4-3 8 8-a 6-2 d r k 3 g-2 f-y 3g-5 4-4 1a-3 2h ",
    "e-3 2-1b 1b-3m u-3 1e-f t-4 11-9 v-5 18-5 v 12-4 f-16 4f-2 b-6 11-4 11-4 15-8 1h-b d g 8 3 ",
    "c g 8 3-3 1h-c 8o-9 n-a 9-o 7 17 a-1x 7-2 2 19 3-3 2-2 o 21-8 a-1c k 3-5 y-3 s-5 s-12 1l-4 ",
    "l-2 1f 3-5 9 4 u-2 4-4 b-7 a-7 1t-w 14-4 d-9 1j-3 u-2 s-5 r-7 5-c 8-28 22-1j 1g-d 1g-7 1b-8 ",
    "b-6 13-3 u-8 3-5s w 17 4-2 3-g 7-8 a-x 1b-8 17-m r-12 t-k o-9 27-4 11-9 1x-a 2-2 q-7 b-6 1i ",
    "j-8 14-9 2p l-b j 1c-1q 8 2 5 g c-6 1o-5 b-6 5 9-2 3-2 n 8 3 6 b-2 3-2 4-2 2-6 2-5 8-2 8-3 ",
    "6-b b 2-2 2 13 b 2-2 2 5 b 3-8 3-t 2l 6-u 21-8 b-4m 1j-2 13-y 1y-b b-6 e-j 1n-6 b-6 l-s s-2 ",
    "g-4 o-55 1p-2s 2c-c 9-2 2-2 9 3 v 3-2 d-9 b-1y 9-2 1b-2 c-r 21-8 2c-d 22-7 b-2e 9-2g z-e ",
    "b-6 a 1a f-a u-3 x-2 n f-21 8 3 19-3 2 3 a-8 b-6 7 3 12 3 7-7 b-6 19-4 b-6u q-7 i 16-3 u-2d ",
    "2-f 1f-d po-2u 34 6-b 5h-218 2s-d uv-a 330-5 g8-5a1 1n-1c6 fu-7 w b-4 2a b-6 v-2 7-a 1z-a b ",
    "8 m-5 k-c0 1n-5i 2k-5 q-2 q-18 24-4 1m-7 i-1s 6-b 8-9 5p3-15 x-2p 38-6pp 5 8 3 84-f 2-t 4-2 ",
    "2-e 5-8 b1-1s4 30-5 e-3 a-7 b-2 9-318 72-3 c5-6 o-f i-f 1b-2 o-9 39-1o 6v-a 14-2 5f-l 1z-3e ",
    "l-c l-c 2g-9 q-3r 2e 20 3-2 2-2 3-2 5 d 2 8 1u 5-2 9 8 t 5 6 2-3 8 9h-2 85-2 jj-f 6 g-uo ",
    "w-6 7-5x 8 i-2 8 3 6-5 1r-x 2-34 1a-3 f-2 b-4 3-8w w-h 1n-5 2-cw 17-5y 18-4 2-5c w n-8 3-68 ",
    "8 5 3 g 5i-2 h-15 25-4 b-4 3-lt 1x-24 1q-5e 5 s 3 2-2 2 b 5/2 2-6 2-4 2/3 4 3 2-2 2/5 3 2-2 ",
    "5 8 5 5 2 b i-5 4 6 i-1g 3-7i 19-4 2t-c g-2 g g 12-a 4v-1k u-d 19-4 a-7 3-e 7-4a re-3 i-3 ",
    "e-3 63-6 d-4 2-f d-4 1l-8 b-6 15-8 v-2 d-4 3-e a-13 9l-8 f-2 e-3 c-3 1m 2-4 h-2 d-4 b-7 44 ",
    "2w-sl wyp-w 3dr-2 4gf-2 5rm-f hb-1wi f3-15u 3t8-5 6jv-f5vr 2-u 2p-3k 6p-1e6o 1ekf-2 1ekf-2"])]

end Arbiter.Text
