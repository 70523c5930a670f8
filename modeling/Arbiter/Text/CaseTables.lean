/-!
# Tables of case

How characters change with their case, as runs in the form that `Arbiter.Text.Shifts` reads.
-/

namespace Arbiter.Text

/-- The characters with one lowercase counterpart. -/
def lowerText : String := String.join [
  "1t-q+w 2u-n+w 2-7+w y/o+1 4/3+1 3/8+1 3/n+1 2~3d 1/3+1 4+5u 1/2+1 2+5q 1+1 2-2+5p 1+1 3+27 ",
  "1+5m 1+5n 1+1 2+5p 1+5r 2+5v 1+5t 1+1 4+5v 1+5x 2+5y 1/3+1 2+62 1+1 2+62 3+1 2+62 1+1 ",
  "2-2+61 1/2+1 2+63 1+1 4+1 8+2 1+1 2+2 1+1 2+2 1/9+1 3/9+1 3+2 1/2+1 2~2p 1~1k 1/k+1 2~3m ",
  "2/9+1 8+8bv 1+1 2~4j 1+8bs 3+1 2~5f 1+1x 1+1z 1/5+1 82/2+1 4+1 9+38 7+12 2-3+11 2+1s 2-2+1r ",
  "2-h+w 2-9+w 10+8 9/c+1 6~1o 3+1 2~7 1+1 3-3~3m 1-g+28 1-w+w 1d/h+1 a/r+1 2+f 1/7+1 3/1c+1 ",
  "3-12+1c 28a-12+5ls 2+5ls 6+5ls k3-28+tzk 1-6+8 1p0+1 7-17~2bk 3-3~2bk 8x/23+1 a~5vj 2/1c+1 ",
  "a-8~8 9-6~8 b-8~8 9-8~8 9-6~8 c/4~8 9-8~8 p-8~8 9-8~8 9-8~8 9-2~8 1-2~22 1~9 c-4~2e 1~9 ",
  "c-2~8 1-2~2s d-2~8 1-2~34 1~7 c-2~3k 1-2~3i 1~9 8a~5st 4~6gv 1~6di 7+s 1a-g+g k+1 mr-q+q ",
  "1f5-1c+1c 1d+1 2~8af 1~2xy 1~89z 3/3+1 2~8bg 1~8al 1~8bj 1~8bi 2+1 3+1 9-2~8cf 1/1e+1 9/2+1 ",
  "5+1 nym/n+1 k/e+1 3s/7+1 4/v+1 b/2+1 2~r9g 1/5+1 5+1 2~wmg 3/2+1 4/a+1 2~wn8 1~wnj 1~wnf ",
  "1~wn5 1~wn8 2~wlu 1~wmi 1~wlx 1+ps 1/8+1 2~1c 1~wn7 1~raw 1/2+1 2~wo7 1/8+1 2~wu9 p+1 ",
  "h7w-q+w xy-14+14 3t-10+14 4d-b+13 2-f+13 2-7+13 2-2+13 1d7-1f+1s 4e-m+w 27v-w+w gw1-w+w ",
  "1t-p+r o5k-y+y"]

/-- The characters with one uppercase counterpart. -/
def upperText : String := String.join [
  "2p-q~w 1n+kn 17-n~w 2-7~w 1+3d 2/o~1 2~6g 2/3~1 3/8~1 3/n~1 3/3~1 1~8c 1+5f 3/2~1 3~1 4~1 ",
  "6~1 3+2p 4~1 1+4j 1+wu9 3+3m 3/3~1 3~1 5~1 3~1 4/2~1 3~1 4~1 2+1k 6~1 1~2 2~1 1~2 2~1 1~2 ",
  "2/8~1 1~27 2/9~1 3~1 1~2 2~1 4/k~1 4/9~1 9~1 3-2+8cf 2~1 5/5~1 1+8bj 1+8bg 1+8bi 1~5u 1~5q ",
  "2-2~5p 2~5m 2~5n 1+wnj 4~5p 1+wnf 2~5r 1+wo7 1+wmg 1+wn8 2~5t 1~5v 1+wn8 1+8af 1+wn5 3~5v ",
  "2+8al 1~5x 3~5y 8+89z 3~62 2+wn7 1~62 4+wmi 1~62 1~1x 1-2~61 1~1z 6~63 b+wlx 1+wlu 4n+2c ",
  "18/2~1 4~1 4-3+3m 1b~12 1-3~11 2-h~w 1~v 1-9~w 1~1s 1-2~1r 2~1q 1~1l 4~1b 1~1i 1~8 2/c~1 ",
  "1~2e 1~28 1+7 1~38 2~2o 3~1 3~1 1h-w~w 1-g~28 2/h~1 a/r~1 3/7~1 1~f 2/1c~1 1e-12~1c ",
  "28a-17+2bk 3-3+2bk l5-6~8 1oj~4tq 1~4tp 1~4tg 1-2~4te 1~4tf 1~4t8 1~4rp 1+r7m 2~1 6n+r9g ",
  "4+2xy h+raw 37/23~1 6~1n 6/1c~1 1-8+8 9-6+8 b-8+8 9-8+8 9-6+8 c/4+8 9-8+8 9-2+22 1-4+2e ",
  "1-2+2s 1-2+3k 1-2+34 1-2+3i 1f-2+8 d~5k5 i-2+8 f-2+8 4+7 a1~s y-g~g 5~1 ng-q~q 1fr-1c~1c ",
  "2~1 4~8bv 1~8bs 2/3~1 7~1 3~1 b/1e~1 9/2~1 5~1 d-12~5ls 2~5ls 6~5ls nx0/n~1 k/e~1 3s/7~1 ",
  "4/v~1 b/2~1 3/5~1 5~1 5/2~1 1+1c 3/a~1 c/8~1 5/2~1 3/8~1 r~1 nx~ps t-28~tzk ghu-q~w ",
  "y6-14~14 3t-10~14 4c-b~13 2-f~13 2-7~13 2-2~13 1dw-1f~1s 3i-m~w 27v-w~w gw1-w~w 1o-p~r ",
  "o5r-y~y"]

/-- The characters whose uppercase form has several characters, with their codes. -/
def upperSpecial : List (Nat × List Nat) := [
  (0xDF, [0x53, 0x53]),
  (0x149, [0x2BC, 0x4E]),
  (0x1F0, [0x4A, 0x30C]),
  (0x390, [0x399, 0x308, 0x301]),
  (0x3B0, [0x3A5, 0x308, 0x301]),
  (0x587, [0x535, 0x552]),
  (0x1E96, [0x48, 0x331]),
  (0x1E97, [0x54, 0x308]),
  (0x1E98, [0x57, 0x30A]),
  (0x1E99, [0x59, 0x30A]),
  (0x1E9A, [0x41, 0x2BE]),
  (0x1F50, [0x3A5, 0x313]),
  (0x1F52, [0x3A5, 0x313, 0x300]),
  (0x1F54, [0x3A5, 0x313, 0x301]),
  (0x1F56, [0x3A5, 0x313, 0x342]),
  (0x1F80, [0x1F08, 0x399]),
  (0x1F81, [0x1F09, 0x399]),
  (0x1F82, [0x1F0A, 0x399]),
  (0x1F83, [0x1F0B, 0x399]),
  (0x1F84, [0x1F0C, 0x399]),
  (0x1F85, [0x1F0D, 0x399]),
  (0x1F86, [0x1F0E, 0x399]),
  (0x1F87, [0x1F0F, 0x399]),
  (0x1F88, [0x1F08, 0x399]),
  (0x1F89, [0x1F09, 0x399]),
  (0x1F8A, [0x1F0A, 0x399]),
  (0x1F8B, [0x1F0B, 0x399]),
  (0x1F8C, [0x1F0C, 0x399]),
  (0x1F8D, [0x1F0D, 0x399]),
  (0x1F8E, [0x1F0E, 0x399]),
  (0x1F8F, [0x1F0F, 0x399]),
  (0x1F90, [0x1F28, 0x399]),
  (0x1F91, [0x1F29, 0x399]),
  (0x1F92, [0x1F2A, 0x399]),
  (0x1F93, [0x1F2B, 0x399]),
  (0x1F94, [0x1F2C, 0x399]),
  (0x1F95, [0x1F2D, 0x399]),
  (0x1F96, [0x1F2E, 0x399]),
  (0x1F97, [0x1F2F, 0x399]),
  (0x1F98, [0x1F28, 0x399]),
  (0x1F99, [0x1F29, 0x399]),
  (0x1F9A, [0x1F2A, 0x399]),
  (0x1F9B, [0x1F2B, 0x399]),
  (0x1F9C, [0x1F2C, 0x399]),
  (0x1F9D, [0x1F2D, 0x399]),
  (0x1F9E, [0x1F2E, 0x399]),
  (0x1F9F, [0x1F2F, 0x399]),
  (0x1FA0, [0x1F68, 0x399]),
  (0x1FA1, [0x1F69, 0x399]),
  (0x1FA2, [0x1F6A, 0x399]),
  (0x1FA3, [0x1F6B, 0x399]),
  (0x1FA4, [0x1F6C, 0x399]),
  (0x1FA5, [0x1F6D, 0x399]),
  (0x1FA6, [0x1F6E, 0x399]),
  (0x1FA7, [0x1F6F, 0x399]),
  (0x1FA8, [0x1F68, 0x399]),
  (0x1FA9, [0x1F69, 0x399]),
  (0x1FAA, [0x1F6A, 0x399]),
  (0x1FAB, [0x1F6B, 0x399]),
  (0x1FAC, [0x1F6C, 0x399]),
  (0x1FAD, [0x1F6D, 0x399]),
  (0x1FAE, [0x1F6E, 0x399]),
  (0x1FAF, [0x1F6F, 0x399]),
  (0x1FB2, [0x1FBA, 0x399]),
  (0x1FB3, [0x391, 0x399]),
  (0x1FB4, [0x386, 0x399]),
  (0x1FB6, [0x391, 0x342]),
  (0x1FB7, [0x391, 0x342, 0x399]),
  (0x1FBC, [0x391, 0x399]),
  (0x1FC2, [0x1FCA, 0x399]),
  (0x1FC3, [0x397, 0x399]),
  (0x1FC4, [0x389, 0x399]),
  (0x1FC6, [0x397, 0x342]),
  (0x1FC7, [0x397, 0x342, 0x399]),
  (0x1FCC, [0x397, 0x399]),
  (0x1FD2, [0x399, 0x308, 0x300]),
  (0x1FD3, [0x399, 0x308, 0x301]),
  (0x1FD6, [0x399, 0x342]),
  (0x1FD7, [0x399, 0x308, 0x342]),
  (0x1FE2, [0x3A5, 0x308, 0x300]),
  (0x1FE3, [0x3A5, 0x308, 0x301]),
  (0x1FE4, [0x3A1, 0x313]),
  (0x1FE6, [0x3A5, 0x342]),
  (0x1FE7, [0x3A5, 0x308, 0x342]),
  (0x1FF2, [0x1FFA, 0x399]),
  (0x1FF3, [0x3A9, 0x399]),
  (0x1FF4, [0x38F, 0x399]),
  (0x1FF6, [0x3A9, 0x342]),
  (0x1FF7, [0x3A9, 0x342, 0x399]),
  (0x1FFC, [0x3A9, 0x399]),
  (0xFB00, [0x46, 0x46]),
  (0xFB01, [0x46, 0x49]),
  (0xFB02, [0x46, 0x4C]),
  (0xFB03, [0x46, 0x46, 0x49]),
  (0xFB04, [0x46, 0x46, 0x4C]),
  (0xFB05, [0x53, 0x54]),
  (0xFB06, [0x53, 0x54]),
  (0xFB13, [0x544, 0x546]),
  (0xFB14, [0x544, 0x535]),
  (0xFB15, [0x544, 0x53B]),
  (0xFB16, [0x54E, 0x546]),
  (0xFB17, [0x544, 0x53D])]

/-- Every character that differs only in case from a lower one, and the lowest such. -/
def foldText : String := String.join [
  "2p-q~w 2u-n~w 2-7~w 3/o~1 4/3~1 3/8~1 3/n~1 1~3d 2/3~1 1~8c 4/2~1 3~1 4~1 6~1 7~1 8/3~1 3~1 ",
  "5~1 3~1 4/2~1 3~1 4~1 8~1 1~2 2~1 1~2 2~1 1~2 2/8~1 1~27 2/9~1 3~1 1~2 2~1 1~2p 1~1k 2/k~1 ",
  "1~3m 3/9~1 9~1 1~4j 5~1 1~5f 4/5~1 4~5u 1~5q 2-2~5p 2~5m 2~5n 5~5p 3~5r 5~5t 1~5v 6~5v 3~5x ",
  "3~5y b~62 3~62 5~62 1~1x 1-2~61 1~1z 6~63 67/2~1 4~1 y~2c 3~kn g~12 1-3~11 2-8~w 1~38 1-2~w ",
  "1~lj 1-5~w 1~v 1-9~w 1~1s 1-2~1r 2~1q 1~1l 4~1b 1~1i 1~8 2/c~1 1~2e 1~28 2~38 1~2k 1~2o 3~1 ",
  "1~7 2~1 2-3~3m 1d-w~w 1-g~28 2/h~1 a/r~1 3/7~1 1~f 2/1c~1 1e-12~1c 2uq-6~8 1oj~4tq 1~4tp ",
  "1~4tg 1-2~4te 1~4tf 1~4t8 1~4rp 3~1 6-17~2bk 3-3~2bk 8y/23~1 6~1n 3~5vj 3/1c~1 9-8~8 9-6~8 ",
  "b-8~8 9-8~8 9-6~8 c/4~8 9-8~8 p-8~8 9-8~8 9-8~8 9-2~8 1-2~22 1~9 2~5mh a-4~2e 1~9 7~5kz ",
  "5-2~8 1-2~2s 8~5kj 5-2~8 1-2~34 1~7 c-2~3k 1-2~3i 1~9 8a~5tp 4~6hr 1~6ee z~s y-g~g 5~1 ",
  "ng-q~q 1fr-1c~1c 2~1 1~8af 1~2xy 1~89z 1~8bv 1~8bs 2/3~1 1~8bg 1~8al 1~8bj 1~8bi 3~1 3~1 ",
  "8-2~8cf 2/1e~1 9/2~1 5~1 d-12~5ls 2~5ls 6~5ls nx0/5~1 1~r7m 1~r7n 2/h~1 k/e~1 3s/7~1 4/v~1 ",
  "b/2~1 1~r9g 2/5~1 5~1 1~wmg 4/2~1 4/a~1 1~wn8 1~wnj 1~wnf 1~wn5 1~wn8 2~wlu 1~wmi 1~wlx ",
  "3/8~1 1~1c 1~wn7 1~raw 2/2~1 1~wo7 2/8~1 1~wu9 q~1 nx~ps t-28~tzk fnr~1 u3-q~w y6-14~14 ",
  "3t-10~14 4c-b~13 2-f~13 2-7~13 2-2~13 1dw-1f~1s 3i-m~w 27v-w~w gw1-w~w 1o-p~r o5r-y~y"]

end Arbiter.Text
