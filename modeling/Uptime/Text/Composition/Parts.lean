import Uptime.Text.Images

/-!
# Composed characters

The characters that a letter and its accents can be written as together, with their parts. Only
those are listed that are their own folded form, and the syllables of Hangul are left to a rule.

## Main definitions

* `Composition.parts`: the parts.
-/

namespace Uptime.Text.Composition

/-- Composed characters and their parts in full. -/
def parts : Array ImageRow := #[
  .ofLines 0x00E0 [
    "61+300 61+301 61+302 61+303 61+308 61+30A - 63+327 65+300 65+301 65+302 65+308 69+300 69+301",
    "69+302 69+308 - 6E+303 6F+300 6F+301 6F+302 6F+303 6F+308 - - 75+300 75+301 75+302 75+308",
    "79+301 - 79+308 - 61+304 - 61+306 - 61+328 - 63+301 - 63+302 - 63+307 - 63+30C - 64+30C - -",
    "- 65+304 - 65+306 - 65+307 - 65+328 - 65+30C - 67+302 - 67+306 - 67+307 - 67+327 - 68+302 -",
    "- - 69+303 - 69+304 - 69+306 - 69+328"],
  .ofLines 0x0135 ["6A+302 - 6B+327 - - 6C+301 - 6C+327 - 6C+30C"],
  .ofLines 0x0144 ["6E+301 - 6E+327 - 6E+30C"],
  .ofLines 0x014D [
    "6F+304 - 6F+306 - 6F+30B - - - 72+301 - 72+327 - 72+30C - 73+301 - 73+302 - 73+327 - 73+30C",
    "- 74+327 - 74+30C - - - 75+303 - 75+304 - 75+306 - 75+30A - 75+30B - 75+328 - 77+302 -",
    "79+302 - - 7A+301 - 7A+307 - 7A+30C"],
  .ofLines 0x01A1 ["6F+31B"],
  .ofLines 0x01B0 ["75+31B"],
  .ofLines 0x01CE [
    "61+30C - 69+30C - 6F+30C - 75+30C - 75+308+304 - 75+308+301 - 75+308+30C - 75+308+300 - -",
    "61+308+304 - 61+307+304 - E6+304 - - - 67+30C - 6B+30C - 6F+328 - 6F+328+304 - 292+30C",
    "6A+30C"],
  .ofLines 0x01F5 [
    "67+301 - - - 6E+300 - 61+30A+301 - E6+301 - F8+301 - 61+30F - 61+311 - 65+30F - 65+311 -",
    "69+30F - 69+311 - 6F+30F - 6F+311 - 72+30F - 72+311 - 75+30F - 75+311 - 73+326 - 74+326 - -",
    "- 68+30C"],
  .ofLines 0x0227 ["61+307 - 65+327 - 6F+308+304 - 6F+303+304 - 6F+307 - 6F+307+304 - 79+304"],
  .ofLines 0x0390 ["3B9+308+301"],
  .ofLines 0x03AC ["3B1+301 3B5+301 3B7+301 3B9+301 3C5+308+301"],
  .ofLines 0x03CA ["3B9+308 3C5+308 3BF+301 3C5+301 3C9+301"],
  .ofLines 0x0439 ["438+306"],
  .ofLines 0x0450 ["435+300 435+308 - 433+301 - - - 456+308"],
  .ofLines 0x045C ["43A+301 438+300 443+306"],
  .ofLines 0x0477 ["475+30F"],
  .ofLines 0x04C2 ["436+306"],
  .ofLines 0x04D1 [
    "430+306 - 430+308 - - - 435+306 - - - 4D9+308 - 436+308 - 437+308 - - - 438+304 - 438+308 -",
    "43E+308 - - - 4E9+308 - 44D+308 - 443+304 - 443+308 - 443+30B - 447+308 - - - 44B+308"],
  .ofLines 0x0622 ["627+653 627+654 648+654 627+655 64A+654"],
  .ofLines 0x06C0 ["6D5+654 - 6C1+654"],
  .ofLines 0x06D3 ["6D2+654"],
  .ofLines 0x0929 ["928+93C"],
  .ofLines 0x0931 ["930+93C - - 933+93C"],
  .ofLines 0x09CB ["9C7+9BE 9C7+9D7"],
  .ofLines 0x0B48 ["B47+B56 - - B47+B3E B47+B57"],
  .ofLines 0x0B94 ["B92+BD7"],
  .ofLines 0x0BCA ["BC6+BBE BC7+BBE BC6+BD7"],
  .ofLines 0x0C48 ["C46+C56"],
  .ofLines 0x0CC0 ["CBF+CD5"],
  .ofLines 0x0CC7 ["CC6+CD5 CC6+CD6 - CC6+CC2 CC6+CC2+CD5"],
  .ofLines 0x0D4A ["D46+D3E D47+D3E D46+D57"],
  .ofLines 0x0DDA ["DD9+DCA - DD9+DCF DD9+DCF+DCA DD9+DDF"],
  .ofLines 0x1026 ["1025+102E"],
  .ofLines 0x1B06 ["1B05+1B35 - 1B07+1B35 - 1B09+1B35 - 1B0B+1B35 - 1B0D+1B35 - - - 1B11+1B35"],
  .ofLines 0x1B3B ["1B3A+1B35 - 1B3C+1B35 - - 1B3E+1B35 1B3F+1B35 - 1B42+1B35"],
  .ofLines 0x1E01 [
    "61+325 - 62+307 - 62+323 - 62+331 - 63+327+301 - 64+307 - 64+323 - 64+331 - 64+327 - 64+32D",
    "- 65+304+300 - 65+304+301 - 65+32D - 65+330 - 65+327+306 - 66+307 - 67+304 - 68+307 - 68+323",
    "- 68+308 - 68+327 - 68+32E - 69+330 - 69+308+301 - 6B+301 - 6B+323 - 6B+331 - 6C+323 -",
    "6C+323+304 - 6C+331 - 6C+32D - 6D+301 - 6D+307 - 6D+323 - 6E+307 - 6E+323 - 6E+331 - 6E+32D",
    "- 6F+303+301 - 6F+303+308 - 6F+304+300 - 6F+304+301 - 70+301 - 70+307 - 72+307 - 72+323 -",
    "72+323+304 - 72+331 - 73+307 - 73+323 - 73+301+307 - 73+30C+307 - 73+323+307 - 74+307 -",
    "74+323 - 74+331 - 74+32D - 75+324 - 75+330 - 75+32D - 75+303+301 - 75+304+308 - 76+303 -",
    "76+323 - 77+300 - 77+301 - 77+308 - 77+307 - 77+323 - 78+307 - 78+308 - 79+307 - 7A+302 -",
    "7A+323 - 7A+331 68+331 74+308 77+30A 79+30A"],
  .ofLines 0x1EA1 [
    "61+323 - 61+309 - 61+302+301 - 61+302+300 - 61+302+309 - 61+302+303 - 61+323+302 -",
    "61+306+301 - 61+306+300 - 61+306+309 - 61+306+303 - 61+323+306 - 65+323 - 65+309 - 65+303 -",
    "65+302+301 - 65+302+300 - 65+302+309 - 65+302+303 - 65+323+302 - 69+309 - 69+323 - 6F+323 -",
    "6F+309 - 6F+302+301 - 6F+302+300 - 6F+302+309 - 6F+302+303 - 6F+323+302 - 6F+31B+301 -",
    "6F+31B+300 - 6F+31B+309 - 6F+31B+303 - 6F+31B+323 - 75+323 - 75+309 - 75+31B+301 -",
    "75+31B+300 - 75+31B+309 - 75+31B+303 - 75+31B+323 - 79+300 - 79+323 - 79+309 - 79+303"],
  .ofLines 0x1F00 [
    "3B1+313 3B1+314 3B1+313+300 3B1+314+300 3B1+313+301 3B1+314+301 3B1+313+342 3B1+314+342"],
  .ofLines 0x1F10 ["3B5+313 3B5+314 3B5+313+300 3B5+314+300 3B5+313+301 3B5+314+301"],
  .ofLines 0x1F20 [
    "3B7+313 3B7+314 3B7+313+300 3B7+314+300 3B7+313+301 3B7+314+301 3B7+313+342 3B7+314+342"],
  .ofLines 0x1F30 [
    "3B9+313 3B9+314 3B9+313+300 3B9+314+300 3B9+313+301 3B9+314+301 3B9+313+342 3B9+314+342"],
  .ofLines 0x1F40 ["3BF+313 3BF+314 3BF+313+300 3BF+314+300 3BF+313+301 3BF+314+301"],
  .ofLines 0x1F50 [
    "3C5+313 3C5+314 3C5+313+300 3C5+314+300 3C5+313+301 3C5+314+301 3C5+313+342 3C5+314+342"],
  .ofLines 0x1F60 [
    "3C9+313 3C9+314 3C9+313+300 3C9+314+300 3C9+313+301 3C9+314+301 3C9+313+342 3C9+314+342"],
  .ofLines 0x1F70 ["3B1+300 - 3B5+300 - 3B7+300 - 3B9+300 - 3BF+300 - 3C5+300 - 3C9+300"],
  .ofLines 0x1FB0 ["3B1+306 3B1+304"],
  .ofLines 0x1FB6 ["3B1+342"],
  .ofLines 0x1FC6 ["3B7+342"],
  .ofLines 0x1FD0 ["3B9+306 3B9+304 3B9+308+300 - - - 3B9+342 3B9+308+342"],
  .ofLines 0x1FE0 ["3C5+306 3C5+304 3C5+308+300 - 3C1+313 3C1+314 3C5+342 3C5+308+342"],
  .ofLines 0x1FF6 ["3C9+342"],
  .ofLines 0x219A ["2190+338 2192+338"],
  .ofLines 0x21AE ["2194+338"],
  .ofLines 0x21CD ["21D0+338 21D4+338 21D2+338"],
  .ofLines 0x2204 ["2203+338"],
  .ofLines 0x2209 ["2208+338 - - 220B+338"],
  .ofLines 0x2224 ["2223+338 - 2225+338"],
  .ofLines 0x2241 ["223C+338 - - 2243+338 - - 2245+338 - 2248+338"],
  .ofLines 0x2260 ["3D+338 - 2261+338"],
  .ofLines 0x226D [
    "224D+338 3C+338 3E+338 2264+338 2265+338 - - 2272+338 2273+338 - - 2276+338 2277+338"],
  .ofLines 0x2280 ["227A+338 227B+338 - - 2282+338 2283+338 - - 2286+338 2287+338"],
  .ofLines 0x22AC ["22A2+338 22A8+338 22A9+338 22AB+338"],
  .ofLines 0x22E0 ["227C+338 227D+338 2291+338 2292+338"],
  .ofLines 0x22EA ["22B2+338 22B3+338 22B4+338 22B5+338"],
  .ofLines 0x304C [
    "304B+3099 - 304D+3099 - 304F+3099 - 3051+3099 - 3053+3099 - 3055+3099 - 3057+3099 -",
    "3059+3099 - 305B+3099 - 305D+3099 - 305F+3099 - 3061+3099 - - 3064+3099 - 3066+3099 -",
    "3068+3099"],
  .ofLines 0x3070 [
    "306F+3099 306F+309A - 3072+3099 3072+309A - 3075+3099 3075+309A - 3078+3099 3078+309A -",
    "307B+3099 307B+309A"],
  .ofLines 0x3094 ["3046+3099"],
  .ofLines 0x309E ["309D+3099"],
  .ofLines 0x30AC [
    "30AB+3099 - 30AD+3099 - 30AF+3099 - 30B1+3099 - 30B3+3099 - 30B5+3099 - 30B7+3099 -",
    "30B9+3099 - 30BB+3099 - 30BD+3099 - 30BF+3099 - 30C1+3099 - - 30C4+3099 - 30C6+3099 -",
    "30C8+3099"],
  .ofLines 0x30D0 [
    "30CF+3099 30CF+309A - 30D2+3099 30D2+309A - 30D5+3099 30D5+309A - 30D8+3099 30D8+309A -",
    "30DB+3099 30DB+309A"],
  .ofLines 0x30F4 ["30A6+3099 - - 30EF+3099 30F0+3099 30F1+3099 30F2+3099 - - - 30FD+3099"],
  .ofLines 0x105C9 ["105D2+307"],
  .ofLines 0x105E4 ["105DA+307"],
  .ofLines 0x1109A ["11099+110BA - 1109B+110BA"],
  .ofLines 0x110AB ["110A5+110BA"],
  .ofLines 0x1112E ["11131+11127 11132+11127"],
  .ofLines 0x1134B ["11347+1133E 11347+11357"],
  .ofLines 0x11383 ["11382+113C9 - 11384+113BB"],
  .ofLines 0x1138E ["1138B+113C2 - - 11390+113C9"],
  .ofLines 0x113C5 ["113C2+113C2 - 113C2+113B8 113C2+113C9"],
  .ofLines 0x114BB ["114B9+114BA 114B9+114B0 - 114B9+114BD"],
  .ofLines 0x115BA ["115B8+115AF 115B9+115AF"],
  .ofLines 0x11938 ["11935+11930"],
  .ofLines 0x16121 [
    "1611E+1611E 1611E+16129 1611E+1611F 16129+1611F 1611E+16120 1611E+1611E+1611F",
    "1611E+16129+1611F 1611E+1611E+16120"],
  .ofLines 0x16D68 ["16D67+16D67 16D63+16D67 16D63+16D67+16D67"]]

end Uptime.Text.Composition
