import Std.Data.HashMap
import Marginalia.Unicode.Ranges

/-!
# `Marginalia.Unicode.Folding`: texts that differ only in case

Full case folding: two texts that differ only in case have the same
folded form. Most characters stand for themselves; some fold to one
other character and a few to two or three.
-/

set_option autoImplicit false

namespace Marginalia.Unicode

/-- The characters that do not fold to themselves. `41-5A/1=61` says that
41 folds to 61, 42 to 62 and so on; after the slash stands the step from
one character to the next. -/
def foldingTable : Text :=
  "41-5A/1=61 B5=3BC C0-D6/1=E0 D8-DE/1=F8 DF=73+73 100-12E/2=101 130=69+307 132-136/2=133
    139-147/2=13A 149=2BC+6E 14A-176/2=14B 178=FF 179-17D/2=17A 17F=73 181=253 182-184/2=183
    186=254 187=188 189-18A/1=256 18B=18C 18E=1DD 18F=259 190=25B 191=192 193=260 194=263
    196=269 197=268 198=199 19C=26F 19D=272 19F=275 1A0-1A4/2=1A1 1A6=280 1A7=1A8 1A9=283
    1AC=1AD 1AE=288 1AF=1B0 1B1-1B2/1=28A 1B3-1B5/2=1B4 1B7=292 1B8=1B9 1BC=1BD 1C4=1C6
    1C5=1C6 1C7=1C9 1C8=1C9 1CA=1CC 1CB-1DB/2=1CC 1DE-1EE/2=1DF 1F0=6A+30C 1F1=1F3
    1F2-1F4/2=1F3 1F6=195 1F7=1BF 1F8-21E/2=1F9 220=19E 222-232/2=223 23A=2C65 23B=23C
    23D=19A 23E=2C66 241=242 243=180 244=289 245=28C 246-24E/2=247 345=3B9 370-372/2=371
    376=377 37F=3F3 386=3AC 388-38A/1=3AD 38C=3CC 38E-38F/1=3CD 390=3B9+308+301
    391-3A1/1=3B1 3A3-3AB/1=3C3 3B0=3C5+308+301 3C2=3C3 3CF=3D7 3D0=3B2 3D1=3B8 3D5=3C6
    3D6=3C0 3D8-3EE/2=3D9 3F0=3BA 3F1=3C1 3F4=3B8 3F5=3B5 3F7=3F8 3F9=3F2 3FA=3FB
    3FD-3FF/1=37B 400-40F/1=450 410-42F/1=430 460-480/2=461 48A-4BE/2=48B 4C0=4CF
    4C1-4CD/2=4C2 4D0-52E/2=4D1 531-556/1=561 587=565+582 10A0-10C5/1=2D00 10C7=2D27
    10CD=2D2D 13F8-13FD/1=13F0 1C80=432 1C81=434 1C82=43E 1C83-1C84/1=441 1C85=442 1C86=44A
    1C87=463 1C88=A64B 1C90-1CBA/1=10D0 1CBD-1CBF/1=10FD 1E00-1E94/2=1E01 1E96=68+331
    1E97=74+308 1E98=77+30A 1E99=79+30A 1E9A=61+2BE 1E9B=1E61 1E9E=73+73 1EA0-1EFE/2=1EA1
    1F08-1F0F/1=1F00 1F18-1F1D/1=1F10 1F28-1F2F/1=1F20 1F38-1F3F/1=1F30 1F48-1F4D/1=1F40
    1F50=3C5+313 1F52=3C5+313+300 1F54=3C5+313+301 1F56=3C5+313+342 1F59-1F5F/2=1F51
    1F68-1F6F/1=1F60 1F80=1F00+3B9 1F81=1F01+3B9 1F82=1F02+3B9 1F83=1F03+3B9 1F84=1F04+3B9
    1F85=1F05+3B9 1F86=1F06+3B9 1F87=1F07+3B9 1F88=1F00+3B9 1F89=1F01+3B9 1F8A=1F02+3B9
    1F8B=1F03+3B9 1F8C=1F04+3B9 1F8D=1F05+3B9 1F8E=1F06+3B9 1F8F=1F07+3B9 1F90=1F20+3B9
    1F91=1F21+3B9 1F92=1F22+3B9 1F93=1F23+3B9 1F94=1F24+3B9 1F95=1F25+3B9 1F96=1F26+3B9
    1F97=1F27+3B9 1F98=1F20+3B9 1F99=1F21+3B9 1F9A=1F22+3B9 1F9B=1F23+3B9 1F9C=1F24+3B9
    1F9D=1F25+3B9 1F9E=1F26+3B9 1F9F=1F27+3B9 1FA0=1F60+3B9 1FA1=1F61+3B9 1FA2=1F62+3B9
    1FA3=1F63+3B9 1FA4=1F64+3B9 1FA5=1F65+3B9 1FA6=1F66+3B9 1FA7=1F67+3B9 1FA8=1F60+3B9
    1FA9=1F61+3B9 1FAA=1F62+3B9 1FAB=1F63+3B9 1FAC=1F64+3B9 1FAD=1F65+3B9 1FAE=1F66+3B9
    1FAF=1F67+3B9 1FB2=1F70+3B9 1FB3=3B1+3B9 1FB4=3AC+3B9 1FB6=3B1+342 1FB7=3B1+342+3B9
    1FB8-1FB9/1=1FB0 1FBA-1FBB/1=1F70 1FBC=3B1+3B9 1FBE=3B9 1FC2=1F74+3B9 1FC3=3B7+3B9
    1FC4=3AE+3B9 1FC6=3B7+342 1FC7=3B7+342+3B9 1FC8-1FCB/1=1F72 1FCC=3B7+3B9
    1FD2=3B9+308+300 1FD3=3B9+308+301 1FD6=3B9+342 1FD7=3B9+308+342 1FD8-1FD9/1=1FD0
    1FDA-1FDB/1=1F76 1FE2=3C5+308+300 1FE3=3C5+308+301 1FE4=3C1+313 1FE6=3C5+342
    1FE7=3C5+308+342 1FE8-1FE9/1=1FE0 1FEA-1FEB/1=1F7A 1FEC=1FE5 1FF2=1F7C+3B9 1FF3=3C9+3B9
    1FF4=3CE+3B9 1FF6=3C9+342 1FF7=3C9+342+3B9 1FF8-1FF9/1=1F78 1FFA-1FFB/1=1F7C
    1FFC=3C9+3B9 2126=3C9 212A=6B 212B=E5 2132=214E 2160-216F/1=2170 2183=2184
    24B6-24CF/1=24D0 2C00-2C2F/1=2C30 2C60=2C61 2C62=26B 2C63=1D7D 2C64=27D 2C67-2C6B/2=2C68
    2C6D=251 2C6E=271 2C6F=250 2C70=252 2C72=2C73 2C75=2C76 2C7E-2C7F/1=23F 2C80-2CE2/2=2C81
    2CEB-2CED/2=2CEC 2CF2=2CF3 A640-A66C/2=A641 A680-A69A/2=A681 A722-A72E/2=A723
    A732-A76E/2=A733 A779-A77B/2=A77A A77D=1D79 A77E-A786/2=A77F A78B=A78C A78D=265
    A790-A792/2=A791 A796-A7A8/2=A797 A7AA=266 A7AB=25C A7AC=261 A7AD=26C A7AE=26A A7B0=29E
    A7B1=287 A7B2=29D A7B3=AB53 A7B4-A7C2/2=A7B5 A7C4=A794 A7C5=282 A7C6=1D8E
    A7C7-A7C9/2=A7C8 A7D0=A7D1 A7D6-A7D8/2=A7D7 A7F5=A7F6 AB70-ABBF/1=13A0 FB00=66+66
    FB01=66+69 FB02=66+6C FB03=66+66+69 FB04=66+66+6C FB05=73+74 FB06=73+74 FB13=574+576
    FB14=574+565 FB15=574+56B FB16=57E+576 FB17=574+56D FF21-FF3A/1=FF41 10400-10427/1=10428
    104B0-104D3/1=104D8 10570-1057A/1=10597 1057C-1058A/1=105A3 1058C-10592/1=105B3
    10594-10595/1=105BB 10C80-10CB2/1=10CC0 118A0-118BF/1=118C0 16E40-16E5F/1=16E60
    1E900-1E921/1=1E922"

/-- The code points of `41+42`. -/
def readCodePoints (written : Text) : List Nat :=
  (Text.splitOn '+' written).map ofHex

/-- Adds the foldings of one entry of the table. -/
def addFolding (folds : Std.HashMap Nat Text) (entry : Text) : Std.HashMap Nat Text :=
  match Text.splitOn '=' entry with
  | [source, target] =>
    match Text.splitOn '/' source with
    | [range, step] =>
      let (low, high) := Ranges.readRange range
      let step := ofHex step
      (List.range ((high - low) / step + 1)).foldl
        (fun folds i =>
          folds.insert (low + i * step) [Char.ofNat (ofHex target + i * step)])
        folds
    | _ => folds.insert (ofHex source) ((readCodePoints target).map Char.ofNat)
  | _ => folds

/-- The folded forms of the characters that do not fold to themselves. -/
def foldings : Std.HashMap Nat Text :=
  (Text.words foldingTable).foldl addFolding ∅

/-- The folded form of a character. -/
def foldChar (c : Char) : Text :=
  foldings.getD c.toNat [c]

/-- The folded form of a text. -/
def foldCase (text : Text) : Text :=
  text.flatMap foldChar

end Marginalia.Unicode
