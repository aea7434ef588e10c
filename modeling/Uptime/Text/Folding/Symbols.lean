import Uptime.Text.Images

/-!
# Folded symbols

The images of symbols that are letters or digits in another style: raised, encircled,
mathematical, or of another script for reference.

## Main definitions

* `Folding.symbols`: the images.
-/

namespace Uptime.Text.Folding

/-- Symbols that stand for letters and digits. -/
def symbols : Array ImageRow := #[
  .ofLines 0x2011 ["2010"],
  .ofLines 0x2017 ["20+333"],
  .ofLines 0x202F ["20 - - - 2032+2032 2032+2032+2032 - 2035+2035 2035+2035+2035"],
  .ofLines 0x203C ["21+21 - 20+305"],
  .ofLines 0x2047 ["3F+3F 3F+21 21+3F"],
  .ofLines 0x2057 ["2032+2032+2032+2032"],
  .ofLines 0x205F ["20"],
  .ofLines 0x2070 [
    "30 69 - - 34 35 36 37 38 39 2B 2212 3D 28 29 6E 30 31 32 33 34 35 36 37 38 39 2B 2212 3D 28",
    "29 - 61 65 6F 78 259 68 6B 6C 6D 6E 70 73 74"],
  .ofLines 0x20A8 ["72+73"],
  .ofLines 0x2100 [
    "61+2F+63 61+2F+73 63 B0+63 - 63+2F+6F 63+2F+75 25B - B0+66 67 68 68 68 68 127 69 69 6C 6C -",
    "6E 6E+6F - - 70 71 72 72 72 - - 73+6D 74+65+6C 74+6D - 7A - - - 7A - - - 62 63 - 65 65 66 -",
    "6D 6F 5D0 5D1 5D2 5D3 69 - 66+61+78 3C0 3B3 3B3 3C0 2211"],
  .ofLines 0x2145 ["64 64 65 69 6A"],
  .ofLines 0x2150 [
    "31+2044+37 31+2044+39 31+2044+31+30 31+2044+33 32+2044+33 31+2044+35 32+2044+35 33+2044+35",
    "34+2044+35 31+2044+36 35+2044+36 31+2044+38 33+2044+38 35+2044+38 37+2044+38 31+2044 69",
    "69+69 69+69+69 69+76 76 76+69 76+69+69 76+69+69+69 69+78 78 78+69 78+69+69 6C 63 64 6D 69",
    "69+69 69+69+69 69+76 76 76+69 76+69+69 76+69+69+69 69+78 78 78+69 78+69+69 6C 63 64 6D"],
  .ofLines 0x2189 ["30+2044+33"],
  .ofLines 0x222C ["222B+222B 222B+222B+222B - 222E+222E 222E+222E+222E"],
  .ofLines 0x2329 ["3008 3009"],
  .ofLines 0x2460 [
    "31 32 33 34 35 36 37 38 39 31+30 31+31 31+32 31+33 31+34 31+35 31+36 31+37 31+38 31+39 32+30",
    "28+31+29 28+32+29 28+33+29 28+34+29 28+35+29 28+36+29 28+37+29 28+38+29 28+39+29 28+31+30+29",
    "28+31+31+29 28+31+32+29 28+31+33+29 28+31+34+29 28+31+35+29 28+31+36+29 28+31+37+29",
    "28+31+38+29 28+31+39+29 28+32+30+29"],
  .ofLines 0x249C [
    "28+61+29 28+62+29 28+63+29 28+64+29 28+65+29 28+66+29 28+67+29 28+68+29 28+69+29 28+6A+29",
    "28+6B+29 28+6C+29 28+6D+29 28+6E+29 28+6F+29 28+70+29 28+71+29 28+72+29 28+73+29 28+74+29",
    "28+75+29 28+76+29 28+77+29 28+78+29 28+79+29 28+7A+29 61 62 63 64 65 66 67 68 69 6A 6B 6C 6D",
    "6E 6F 70 71 72 73 74 75 76 77 78 79 7A 61 62 63 64 65 66 67 68 69 6A 6B 6C 6D 6E 6F 70 71 72",
    "73 74 75 76 77 78 79 7A 30"],
  .ofLines 0x2A0C ["222B+222B+222B+222B"],
  .ofLines 0x2A74 ["3A+3A+3D 3D+3D 3D+3D+3D"],
  .ofLines 0x2ADC ["2ADD+338"],
  .ofLines 0x2C7C ["6A 76"],
  .ofLines 0x2D6F ["2D61"],
  .ofLines 0x10781 [
    "2D0 2D1 E6 299 253 - 2A3 AB66 2A5 2A4 256 257 1D91 258 25E 2A9 264 262 260 29B 127 29C 267",
    "284 2AA 2AB 26C 1DF04 A78E 26E 1DF05 28E 1DF06 F8 276 277 71 27A 1DF08 27D 27E 280 2A8 2A6",
    "AB67 2A7 288 2C71 - 28F 2A1 2A2 298 1C0 1C1 1C2 1DF0A 1DF1E"],
  .ofLines 0x1CCD6 [
    "61 62 63 64 65 66 67 68 69 6A 6B 6C 6D 6E 6F 70 71 72 73 74 75 76 77 78 79 7A 30 31 32 33 34",
    "35 36 37 38 39"],
  .ofLines 0x1D15E [
    "1D157+1D165 1D158+1D165 1D158+1D165+1D16E 1D158+1D165+1D16F 1D158+1D165+1D170",
    "1D158+1D165+1D171 1D158+1D165+1D172"],
  .ofLines 0x1D1BB [
    "1D1B9+1D165 1D1BA+1D165 1D1B9+1D165+1D16E 1D1BA+1D165+1D16E 1D1B9+1D165+1D16F",
    "1D1BA+1D165+1D16F"],
  .ofLines 0x1D400 [
    "61 62 63 64 65 66 67 68 69 6A 6B 6C 6D 6E 6F 70 71 72 73 74 75 76 77 78 79 7A 61 62 63 64 65",
    "66 67 68 69 6A 6B 6C 6D 6E 6F 70 71 72 73 74 75 76 77 78 79 7A 61 62 63 64 65 66 67 68 69 6A",
    "6B 6C 6D 6E 6F 70 71 72 73 74 75 76 77 78 79 7A 61 62 63 64 65 66 67 - 69 6A 6B 6C 6D 6E 6F",
    "70 71 72 73 74 75 76 77 78 79 7A 61 62 63 64 65 66 67 68 69 6A 6B 6C 6D 6E 6F 70 71 72 73 74",
    "75 76 77 78 79 7A 61 62 63 64 65 66 67 68 69 6A 6B 6C 6D 6E 6F 70 71 72 73 74 75 76 77 78 79",
    "7A 61 - 63 64 - - 67 - - 6A 6B - - 6E 6F 70 71 - 73 74 75 76 77 78 79 7A 61 62 63 64 - 66 -",
    "68 69 6A 6B 6C 6D 6E - 70 71 72 73 74 75 76 77 78 79 7A 61 62 63 64 65 66 67 68 69 6A 6B 6C",
    "6D 6E 6F 70 71 72 73 74 75 76 77 78 79 7A 61 62 63 64 65 66 67 68 69 6A 6B 6C 6D 6E 6F 70 71",
    "72 73 74 75 76 77 78 79 7A 61 62 - 64 65 66 67 - - 6A 6B 6C 6D 6E 6F 70 71 - 73 74 75 76 77",
    "78 79 - 61 62 63 64 65 66 67 68 69 6A 6B 6C 6D 6E 6F 70 71 72 73 74 75 76 77 78 79 7A 61 62",
    "- 64 65 66 67 - 69 6A 6B 6C 6D - 6F - - - 73 74 75 76 77 78 79 - 61 62 63 64 65 66 67 68 69",
    "6A 6B 6C 6D 6E 6F 70 71 72 73 74 75 76 77 78 79 7A 61 62 63 64 65 66 67 68 69 6A 6B 6C 6D 6E",
    "6F 70 71 72 73 74 75 76 77 78 79 7A 61 62 63 64 65 66 67 68 69 6A 6B 6C 6D 6E 6F 70 71 72 73",
    "74 75 76 77 78 79 7A 61 62 63 64 65 66 67 68 69 6A 6B 6C 6D 6E 6F 70 71 72 73 74 75 76 77 78",
    "79 7A 61 62 63 64 65 66 67 68 69 6A 6B 6C 6D 6E 6F 70 71 72 73 74 75 76 77 78 79 7A 61 62 63",
    "64 65 66 67 68 69 6A 6B 6C 6D 6E 6F 70 71 72 73 74 75 76 77 78 79 7A 61 62 63 64 65 66 67 68",
    "69 6A 6B 6C 6D 6E 6F 70 71 72 73 74 75 76 77 78 79 7A 61 62 63 64 65 66 67 68 69 6A 6B 6C 6D",
    "6E 6F 70 71 72 73 74 75 76 77 78 79 7A 61 62 63 64 65 66 67 68 69 6A 6B 6C 6D 6E 6F 70 71 72",
    "73 74 75 76 77 78 79 7A 61 62 63 64 65 66 67 68 69 6A 6B 6C 6D 6E 6F 70 71 72 73 74 75 76 77",
    "78 79 7A 61 62 63 64 65 66 67 68 69 6A 6B 6C 6D 6E 6F 70 71 72 73 74 75 76 77 78 79 7A 61 62",
    "63 64 65 66 67 68 69 6A 6B 6C 6D 6E 6F 70 71 72 73 74 75 76 77 78 79 7A 61 62 63 64 65 66 67",
    "68 69 6A 6B 6C 6D 6E 6F 70 71 72 73 74 75 76 77 78 79 7A 131 237 - - 3B1 3B2 3B3 3B4 3B5 3B6",
    "3B7 3B8 3B9 3BA 3BB 3BC 3BD 3BE 3BF 3C0 3C1 3B8 3C3 3C4 3C5 3C6 3C7 3C8 3C9 2207 3B1 3B2 3B3",
    "3B4 3B5 3B6 3B7 3B8 3B9 3BA 3BB 3BC 3BD 3BE 3BF 3C0 3C1 3C3 3C3 3C4 3C5 3C6 3C7 3C8 3C9 2202",
    "3B5 3B8 3BA 3C6 3C1 3C0 3B1 3B2 3B3 3B4 3B5 3B6 3B7 3B8 3B9 3BA 3BB 3BC 3BD 3BE 3BF 3C0 3C1",
    "3B8 3C3 3C4 3C5 3C6 3C7 3C8 3C9 2207 3B1 3B2 3B3 3B4 3B5 3B6 3B7 3B8 3B9 3BA 3BB 3BC 3BD 3BE",
    "3BF 3C0 3C1 3C3 3C3 3C4 3C5 3C6 3C7 3C8 3C9 2202 3B5 3B8 3BA 3C6 3C1 3C0 3B1 3B2 3B3 3B4 3B5",
    "3B6 3B7 3B8 3B9 3BA 3BB 3BC 3BD 3BE 3BF 3C0 3C1 3B8 3C3 3C4 3C5 3C6 3C7 3C8 3C9 2207 3B1 3B2",
    "3B3 3B4 3B5 3B6 3B7 3B8 3B9 3BA 3BB 3BC 3BD 3BE 3BF 3C0 3C1 3C3 3C3 3C4 3C5 3C6 3C7 3C8 3C9",
    "2202 3B5 3B8 3BA 3C6 3C1 3C0 3B1 3B2 3B3 3B4 3B5 3B6 3B7 3B8 3B9 3BA 3BB 3BC 3BD 3BE 3BF 3C0",
    "3C1 3B8 3C3 3C4 3C5 3C6 3C7 3C8 3C9 2207 3B1 3B2 3B3 3B4 3B5 3B6 3B7 3B8 3B9 3BA 3BB 3BC 3BD",
    "3BE 3BF 3C0 3C1 3C3 3C3 3C4 3C5 3C6 3C7 3C8 3C9 2202 3B5 3B8 3BA 3C6 3C1 3C0 3B1 3B2 3B3 3B4",
    "3B5 3B6 3B7 3B8 3B9 3BA 3BB 3BC 3BD 3BE 3BF 3C0 3C1 3B8 3C3 3C4 3C5 3C6 3C7 3C8 3C9 2207 3B1",
    "3B2 3B3 3B4 3B5 3B6 3B7 3B8 3B9 3BA 3BB 3BC 3BD 3BE 3BF 3C0 3C1 3C3 3C3 3C4 3C5 3C6 3C7 3C8",
    "3C9 2202 3B5 3B8 3BA 3C6 3C1 3C0 3DD 3DD - - 30 31 32 33 34 35 36 37 38 39 30 31 32 33 34 35",
    "36 37 38 39 30 31 32 33 34 35 36 37 38 39 30 31 32 33 34 35 36 37 38 39 30 31 32 33 34 35 36",
    "37 38 39"],
  .ofLines 0x1E030 [
    "430 431 432 433 434 435 436 437 438 43A 43B 43C 43E 43F 440 441 442 443 444 445 446 447 448",
    "44B 44D 44E A689 4D9 456 458 4E9 4AF 4CF 430 431 432 433 434 435 436 437 438 43A 43B 43E 43F",
    "441 443 444 445 446 447 448 44A 44B 491 456 455 45F 4AB A651 4B1"],
  .ofLines 0x1EE00 [
    "627 628 62C 62F - 648 632 62D 637 64A 643 644 645 646 633 639 641 635 642 631 634 62A 62B",
    "62E 630 636 638 63A 66E 6BA 6A1 66F - 628 62C - 647 - - 62D - 64A 643 644 645 646 633 639",
    "641 635 642 - 634 62A 62B 62E - 636 - 63A"],
  .ofLines 0x1EE42 ["62C"],
  .ofLines 0x1EE47 [
    "62D - 64A - 644 - 646 633 639 - 635 642 - 634 - - 62E - 636 - 63A - 6BA - 66F - 628 62C -",
    "647 - - 62D 637 64A 643 - 645 646 633 639 641 635 642 - 634 62A 62B 62E - 636 638 63A 66E -",
    "6A1 - 627 628 62C 62F 647 648 632 62D 637 64A - 644 645 646 633 639 641 635 642 631 634 62A",
    "62B 62E 630 636 638 63A"],
  .ofLines 0x1EEA1 [
    "628 62C 62F - 648 632 62D 637 64A - 644 645 646 633 639 641 635 642 631 634 62A 62B 62E 630",
    "636 638 63A"],
  .ofLines 0x1F101 ["30+2C 31+2C 32+2C 33+2C 34+2C 35+2C 36+2C 37+2C 38+2C 39+2C"],
  .ofLines 0x1F110 [
    "28+61+29 28+62+29 28+63+29 28+64+29 28+65+29 28+66+29 28+67+29 28+68+29 28+69+29 28+6A+29",
    "28+6B+29 28+6C+29 28+6D+29 28+6E+29 28+6F+29 28+70+29 28+71+29 28+72+29 28+73+29 28+74+29",
    "28+75+29 28+76+29 28+77+29 28+78+29 28+79+29 28+7A+29 3014+73+3015 63 72 63+64 77+7A - 61 62",
    "63 64 65 66 67 68 69 6A 6B 6C 6D 6E 6F 70 71 72 73 74 75 76 77 78 79 7A 68+76 6D+76 73+64",
    "73+73 70+70+76 77+63"],
  .ofLines 0x1F16A ["6D+63 6D+64 6D+72"],
  .ofLines 0x1F190 ["64+6A"],
  .ofLines 0x1FBF0 ["30 31 32 33 34 35 36 37 38 39"]]

end Uptime.Text.Folding
