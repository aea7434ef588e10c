import Uptime.Text.Images

/-!
# Folded letters

The images of letters, and of the signs among them, whose folded form is not their lower-case form.

## Main definitions

* `Folding.letters`: the images.
-/

namespace Uptime.Text.Folding

/-- Letters that stand for others: with their accents apart, raised, joined, or with a capital of
their own kind. -/
def letters : Array ImageRow := #[
  .ofLines 0x00A0 ["20"],
  .ofLines 0x00A8 ["20+308 - 61"],
  .ofLines 0x00AF [
    "20+304 - - 32 33 20+301 3BC - - 20+327 31 6F - 31+2044+34 31+2044+32 33+2044+34"],
  .ofLines 0x0130 ["69+307 - 69+6A 69+6A"],
  .ofLines 0x013F ["6C+B7 6C+B7"],
  .ofLines 0x0149 ["2BC+6E"],
  .ofLines 0x017F ["73"],
  .ofLines 0x01C4 ["64+17E 64+17E 64+17E 6C+6A 6C+6A 6C+6A 6E+6A 6E+6A 6E+6A"],
  .ofLines 0x01F1 ["64+7A 64+7A 64+7A"],
  .ofLines 0x02B0 ["68 266 6A 72 279 27B 281 77 79"],
  .ofLines 0x02D8 ["20+306 20+307 20+30A 20+328 20+303 20+30B - - 263 6C 73 78 295"],
  .ofLines 0x0340 ["300 301 - 313 308+301 3B9"],
  .ofLines 0x0374 ["2B9"],
  .ofLines 0x037A ["20+3B9 - - - 3B"],
  .ofLines 0x0384 ["20+301 20+308+301 - B7"],
  .ofLines 0x03D0 ["3B2 3B8 3C5 3CD 3CB 3C6 3C0"],
  .ofLines 0x03F0 ["3BA 3C1 3C3 - - 3B5 - - - 3C3"],
  .ofLines 0x0587 ["565+582"],
  .ofLines 0x0675 ["627+674 648+674 6C7+674 64A+674"],
  .ofLines 0x0958 ["915+93C 916+93C 917+93C 91C+93C 921+93C 922+93C 92B+93C 92F+93C"],
  .ofLines 0x09DC ["9A1+9BC 9A2+9BC - 9AF+9BC"],
  .ofLines 0x0A33 ["A32+A3C - - A38+A3C"],
  .ofLines 0x0A59 ["A16+A3C A17+A3C A1C+A3C - - A2B+A3C"],
  .ofLines 0x0B5C ["B21+B3C B22+B3C"],
  .ofLines 0x0E33 ["E4D+E32"],
  .ofLines 0x0EB3 ["ECD+EB2"],
  .ofLines 0x0EDC ["EAB+E99 EAB+EA1"],
  .ofLines 0x0F0C ["F0B"],
  .ofLines 0x0F43 ["F42+FB7"],
  .ofLines 0x0F4D ["F4C+FB7"],
  .ofLines 0x0F52 ["F51+FB7"],
  .ofLines 0x0F57 ["F56+FB7"],
  .ofLines 0x0F5C ["F5B+FB7"],
  .ofLines 0x0F69 ["F40+FB5"],
  .ofLines 0x0F73 ["F71+F72 - F71+F74 FB2+F80 FB2+F71+F80 FB3+F80 FB3+F71+F80"],
  .ofLines 0x0F81 ["F71+F80"],
  .ofLines 0x0F93 ["F92+FB7"],
  .ofLines 0x0F9D ["F9C+FB7"],
  .ofLines 0x0FA2 ["FA1+FB7"],
  .ofLines 0x0FA7 ["FA6+FB7"],
  .ofLines 0x0FAC ["FAB+FB7"],
  .ofLines 0x0FB9 ["F90+FB5"],
  .ofLines 0x10FC ["10DC"],
  .ofLines 0x13F8 ["13F0 13F1 13F2 13F3 13F4 13F5"],
  .ofLines 0x1C80 ["432 434 43E 441 442 442 44A 463 A64B"],
  .ofLines 0x1D2C [
    "61 E6 62 - 64 65 1DD 67 68 69 6A 6B 6C 6D 6E - 6F 223 70 72 74 75 77 61 250 251 1D02 62 64",
    "65 259 25B 25C 67 - 6B 6D 14B 6F 254 1D16 1D17 70 74 75 1D1D 26F 76 1D25 3B2 3B3 3B4 3C6 3C7",
    "69 72 75 76 3B2 3B3 3C1 3C6 3C7"],
  .ofLines 0x1D78 ["43D"],
  .ofLines 0x1D9B [
    "252 63 255 F0 25C 66 25F 261 265 268 269 26A 1D7B 29D 26D 1D85 29F 271 270 272 273 274 275",
    "278 282 283 1AB 289 28A 1D1C 28B 28C 7A 290 291 292 3B8"],
  .ofLines 0x1E9A ["61+2BE 1E61"],
  .ofLines 0x1F71 [
    "3AC - 3AD - 3AE - 3AF - 3CC - 3CD - 3CE - - 1F00+3B9 1F01+3B9 1F02+3B9 1F03+3B9 1F04+3B9",
    "1F05+3B9 1F06+3B9 1F07+3B9 1F00+3B9 1F01+3B9 1F02+3B9 1F03+3B9 1F04+3B9 1F05+3B9 1F06+3B9",
    "1F07+3B9 1F20+3B9 1F21+3B9 1F22+3B9 1F23+3B9 1F24+3B9 1F25+3B9 1F26+3B9 1F27+3B9 1F20+3B9",
    "1F21+3B9 1F22+3B9 1F23+3B9 1F24+3B9 1F25+3B9 1F26+3B9 1F27+3B9 1F60+3B9 1F61+3B9 1F62+3B9",
    "1F63+3B9 1F64+3B9 1F65+3B9 1F66+3B9 1F67+3B9 1F60+3B9 1F61+3B9 1F62+3B9 1F63+3B9 1F64+3B9",
    "1F65+3B9 1F66+3B9 1F67+3B9 - - 1F70+3B9 3B1+3B9 3AC+3B9 - - 1FB6+3B9 - - - 3AC 3B1+3B9",
    "20+313 3B9 20+313 20+342 20+308+342 1F74+3B9 3B7+3B9 3AE+3B9 - - 1FC6+3B9 - 3AD - 3AE",
    "3B7+3B9 20+313+300 20+313+301 20+313+342 - - - 390"],
  .ofLines 0x1FDB ["3AF - 20+314+300 20+314+301 20+314+342 - - - 3B0"],
  .ofLines 0x1FEB [
    "3CD - 20+308+300 20+308+301 60 - - 1F7C+3B9 3C9+3B9 3CE+3B9 - - 1FF6+3B9 - 3CC - 3CE 3C9+3B9",
    "20+301 20+314 - 20 20 20 20 20 20 20 20 20 20 20"]]

end Uptime.Text.Folding
