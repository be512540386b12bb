/-
# ByteStream.Domain.Direction -- labels written from right to left

A name that holds characters written from right to left must not look different from what it is.
So every label of such a name begins with a letter, which settles its direction; it holds no
letters of the other direction; it ends in a letter or a number; and only one kind of number stands
in a label written from right to left. The data is that of Unicode 17.
-/

import ByteStream.Text.Table

namespace ByteStream.Domain

open Text

/-! ## Data -/

/-- Where a direction starts, and the direction, in the order of `Direction`. -/
def directionSteps : Array Row := rows
  "0 5;9 6;E 5;1C 6;21 5;30 2;3A 5;41 0;5B 5;61 0;7B 5;85 6;86 5;AA 0;AB 5;B2 2;B4 5;B5 0;B6 5;
   B9 2;BA 0;BB 5;C0 0;D7 5;D8 0;F7 5;F8 0;2B9 5;2BB 0;2C2 5;2D0 0;2D2 5;2E0 0;2E5 5;2EE 0;2EF 5;
   300 4;370 0;374 5;376 0;37E 5;37F 0;384 5;386 0;387 5;388 0;3F6 5;3F7 0;483 4;48A 0;58A 5;
   58B 0;58D 5;590 1;591 4;5BE 1;5BF 4;5C0 1;5C1 4;5C3 1;5C4 4;5C6 1;5C7 4;5C8 1;600 3;606 5;
   608 1;609 5;60B 1;60C 5;60D 1;60E 5;610 4;61B 1;64B 4;660 3;66A 5;66B 3;66D 1;670 4;671 1;
   6D6 4;6DD 3;6DE 5;6DF 4;6E5 1;6E7 4;6E9 5;6EA 4;6EE 1;6F0 2;6FA 1;711 4;712 1;730 4;74B 1;
   7A6 4;7B1 1;7EB 4;7F4 1;7F6 5;7FA 1;7FD 4;7FE 1;816 4;81A 1;81B 4;824 1;825 4;828 1;829 4;
   82E 1;859 4;85C 1;890 3;892 1;897 4;8A0 1;8CA 4;8E2 3;8E3 4;903 0;93A 4;93B 0;93C 4;93D 0;
   941 4;949 0;94D 4;94E 0;951 4;958 0;962 4;964 0;981 4;982 0;9BC 4;9BD 0;9C1 4;9C5 0;9CD 4;
   9CE 0;9E2 4;9E4 0;9F2 5;9F4 0;9FB 5;9FC 0;9FE 4;9FF 0;A01 4;A03 0;A3C 4;A3D 0;A41 4;A43 0;
   A47 4;A49 0;A4B 4;A4E 0;A51 4;A52 0;A70 4;A72 0;A75 4;A76 0;A81 4;A83 0;ABC 4;ABD 0;AC1 4;
   AC6 0;AC7 4;AC9 0;ACD 4;ACE 0;AE2 4;AE4 0;AF1 5;AF2 0;AFA 4;B00 0;B01 4;B02 0;B3C 4;B3D 0;
   B3F 4;B40 0;B41 4;B45 0;B4D 4;B4E 0;B55 4;B57 0;B62 4;B64 0;B82 4;B83 0;BC0 4;BC1 0;BCD 4;
   BCE 0;BF3 5;BFB 0;C00 4;C01 0;C04 4;C05 0;C3C 4;C3D 0;C3E 4;C41 0;C46 4;C49 0;C4A 4;C4E 0;
   C55 4;C57 0;C62 4;C64 0;C78 5;C7F 0;C81 4;C82 0;CBC 4;CBD 0;CCC 4;CCE 0;CE2 4;CE4 0;D00 4;
   D02 0;D3B 4;D3D 0;D41 4;D45 0;D4D 4;D4E 0;D62 4;D64 0;D81 4;D82 0;DCA 4;DCB 0;DD2 4;DD5 0;
   DD6 4;DD7 0;E31 4;E32 0;E34 4;E3B 0;E3F 5;E40 0;E47 4;E4F 0;EB1 4;EB2 0;EB4 4;EBD 0;EC8 4;
   ECF 0;F18 4;F1A 0;F35 4;F36 0;F37 4;F38 0;F39 4;F3A 5;F3E 0;F71 4;F7F 0;F80 4;F85 0;F86 4;
   F88 0;F8D 4;F98 0;F99 4;FBD 0;FC6 4;FC7 0;102D 4;1031 0;1032 4;1038 0;1039 4;103B 0;103D 4;
   103F 0;1058 4;105A 0;105E 4;1061 0;1071 4;1075 0;1082 4;1083 0;1085 4;1087 0;108D 4;108E 0;
   109D 4;109E 0;135D 4;1360 0;1390 5;139A 0;1400 5;1401 0;1680 6;1681 0;169B 5;169D 0;1712 4;
   1715 0;1732 4;1734 0;1752 4;1754 0;1772 4;1774 0;17B4 4;17B6 0;17B7 4;17BE 0;17C6 4;17C7 0;
   17C9 4;17D4 0;17DB 5;17DC 0;17DD 4;17DE 0;17F0 5;17FA 0;1800 5;180B 4;180E 5;180F 4;1810 0;
   1885 4;1887 0;18A9 4;18AA 0;1920 4;1923 0;1927 4;1929 0;1932 4;1933 0;1939 4;193C 0;1940 5;
   1941 0;1944 5;1946 0;19DE 5;1A00 0;1A17 4;1A19 0;1A1B 4;1A1C 0;1A56 4;1A57 0;1A58 4;1A5F 0;
   1A60 4;1A61 0;1A62 4;1A63 0;1A65 4;1A6D 0;1A73 4;1A7D 0;1A7F 4;1A80 0;1AB0 4;1ADE 0;1AE0 4;
   1AEC 0;1B00 4;1B04 0;1B34 4;1B35 0;1B36 4;1B3B 0;1B3C 4;1B3D 0;1B42 4;1B43 0;1B6B 4;1B74 0;
   1B80 4;1B82 0;1BA2 4;1BA6 0;1BA8 4;1BAA 0;1BAB 4;1BAE 0;1BE6 4;1BE7 0;1BE8 4;1BEA 0;1BED 4;
   1BEE 0;1BEF 4;1BF2 0;1C2C 4;1C34 0;1C36 4;1C38 0;1CD0 4;1CD3 0;1CD4 4;1CE1 0;1CE2 4;1CE9 0;
   1CED 4;1CEE 0;1CF4 4;1CF5 0;1CF8 4;1CFA 0;1DC0 4;1E00 0;1FBD 5;1FBE 0;1FBF 5;1FC2 0;1FCD 5;
   1FD0 0;1FDD 5;1FE0 0;1FED 5;1FF0 0;1FFD 5;1FFF 0;2000 6;200B 5;200E 0;200F 1;2010 5;2028 6;
   202F 5;205F 6;2060 5;2066 6;206A 5;2070 2;2071 0;2074 2;207A 5;207F 0;2080 2;208A 5;208F 0;
   20A0 5;20D0 4;20F1 0;2100 5;2102 0;2103 5;2107 0;2108 5;210A 0;2114 5;2115 0;2116 5;2119 0;
   211E 5;2124 0;2125 5;2126 0;2127 5;2128 0;2129 5;212A 0;212E 5;212F 0;213A 5;213C 0;2140 5;
   2145 0;214A 5;214E 0;2150 5;2160 0;2189 5;218C 0;2190 5;2336 0;237B 5;2395 0;2396 5;242A 0;
   2440 5;244B 0;2460 5;2488 2;249C 0;24EA 5;26AC 0;26AD 5;2800 0;2900 5;2B74 0;2B76 5;2C00 0;
   2CE5 5;2CEB 0;2CEF 4;2CF2 0;2CF9 5;2D00 0;2D7F 4;2D80 0;2DE0 4;2E00 5;2E5E 0;2E80 5;2E9A 0;
   2E9B 5;2EF4 0;2F00 5;2FD6 0;2FF0 5;3000 6;3001 5;3005 0;3008 5;3021 0;302A 4;302E 0;3030 5;
   3031 0;3036 5;3038 0;303D 5;3040 0;3099 4;309B 5;309D 0;30A0 5;30A1 0;30FB 5;30FC 0;31C0 5;
   31E6 0;31EF 5;31F0 0;321D 5;321F 0;3250 5;3260 0;327C 5;327F 0;32B1 5;32C0 0;32CC 5;32D0 0;
   3377 5;337B 0;33DE 5;33E0 0;33FF 5;3400 0;4DC0 5;4E00 0;A490 5;A4C7 0;A60D 5;A610 0;A66F 4;
   A673 5;A674 4;A67E 5;A680 0;A69E 4;A6A0 0;A6F0 4;A6F2 0;A700 5;A722 0;A788 5;A789 0;A802 4;
   A803 0;A806 4;A807 0;A80B 4;A80C 0;A825 4;A827 0;A828 5;A82C 4;A82D 0;A838 5;A83A 0;A874 5;
   A878 0;A8C4 4;A8C6 0;A8E0 4;A8F2 0;A8FF 4;A900 0;A926 4;A92E 0;A947 4;A952 0;A980 4;A983 0;
   A9B3 4;A9B4 0;A9B6 4;A9BA 0;A9BC 4;A9BE 0;A9E5 4;A9E6 0;AA29 4;AA2F 0;AA31 4;AA33 0;AA35 4;
   AA37 0;AA43 4;AA44 0;AA4C 4;AA4D 0;AA7C 4;AA7D 0;AAB0 4;AAB1 0;AAB2 4;AAB5 0;AAB7 4;AAB9 0;
   AABE 4;AAC0 0;AAC1 4;AAC2 0;AAEC 4;AAEE 0;AAF6 4;AAF7 0;AB6A 5;AB6C 0;ABE5 4;ABE6 0;ABE8 4;
   ABE9 0;ABED 4;ABEE 0;FB1D 1;FB1E 4;FB1F 1;FB29 5;FB2A 1;FBC3 5;FBD3 1;FD3E 5;FD50 1;FD90 5;
   FD92 1;FDC8 5;FDF0 1;FDFD 5;FE00 4;FE10 5;FE1A 0;FE20 4;FE30 5;FE53 0;FE54 5;FE67 0;FE68 5;
   FE6C 0;FE70 1;FEFF 5;FF00 0;FF01 5;FF10 2;FF1A 5;FF21 0;FF3B 5;FF41 0;FF5B 5;FF66 0;FFE0 5;
   FFE7 0;FFE8 5;FFEF 0;FFF0 5;10000 0;10101 5;10102 0;10140 5;1018D 0;10190 5;1019D 0;101A0 5;
   101A1 0;101FD 4;101FE 0;102E0 4;102E1 2;102FC 0;10376 4;1037B 0;10800 1;1091F 5;10920 1;
   10A01 4;10A04 1;10A05 4;10A07 1;10A0C 4;10A10 1;10A38 4;10A3B 1;10A3F 4;10A40 1;10AE5 4;
   10AE7 1;10B39 5;10B40 1;10D24 4;10D28 1;10D30 3;10D3A 1;10D40 3;10D4A 1;10D69 4;10D6E 5;
   10D6F 1;10E60 3;10E7F 1;10EAB 4;10EAD 1;10ED0 5;10ED9 1;10EFA 4;10F00 1;10F46 4;10F51 1;
   10F82 4;10F86 1;11000 0;11001 4;11002 0;11038 4;11047 0;11052 5;11066 0;11070 4;11071 0;
   11073 4;11075 0;1107F 4;11082 0;110B3 4;110B7 0;110B9 4;110BB 0;110C2 4;110C3 0;11100 4;
   11103 0;11127 4;1112C 0;1112D 4;11135 0;11173 4;11174 0;11180 4;11182 0;111B6 4;111BF 0;
   111C9 4;111CD 0;111CF 4;111D0 0;1122F 4;11232 0;11234 4;11235 0;11236 4;11238 0;1123E 4;
   1123F 0;11241 4;11242 0;112DF 4;112E0 0;112E3 4;112EB 0;11300 4;11302 0;1133B 4;1133D 0;
   11340 4;11341 0;11366 4;1136D 0;11370 4;11375 0;113BB 4;113C1 0;113CE 4;113CF 0;113D0 4;
   113D1 0;113D2 4;113D3 0;113E1 4;113E3 0;11438 4;11440 0;11442 4;11445 0;11446 4;11447 0;
   1145E 4;1145F 0;114B3 4;114B9 0;114BA 4;114BB 0;114BF 4;114C1 0;114C2 4;114C4 0;115B2 4;
   115B6 0;115BC 4;115BE 0;115BF 4;115C1 0;115DC 4;115DE 0;11633 4;1163B 0;1163D 4;1163E 0;
   1163F 4;11641 0;11660 5;1166D 0;116AB 4;116AC 0;116AD 4;116AE 0;116B0 4;116B6 0;116B7 4;
   116B8 0;1171D 4;1171E 0;1171F 4;11720 0;11722 4;11726 0;11727 4;1172C 0;1182F 4;11838 0;
   11839 4;1183B 0;1193B 4;1193D 0;1193E 4;1193F 0;11943 4;11944 0;119D4 4;119D8 0;119DA 4;
   119DC 0;119E0 4;119E1 0;11A01 4;11A07 0;11A09 4;11A0B 0;11A33 4;11A39 0;11A3B 4;11A3F 0;
   11A47 4;11A48 0;11A51 4;11A57 0;11A59 4;11A5C 0;11A8A 4;11A97 0;11A98 4;11A9A 0;11B60 4;
   11B61 0;11B62 4;11B65 0;11B66 4;11B67 0;11C30 4;11C37 0;11C38 4;11C3E 0;11C92 4;11CA8 0;
   11CAA 4;11CB1 0;11CB2 4;11CB4 0;11CB5 4;11CB7 0;11D31 4;11D37 0;11D3A 4;11D3B 0;11D3C 4;
   11D3E 0;11D3F 4;11D46 0;11D47 4;11D48 0;11D90 4;11D92 0;11D95 4;11D96 0;11D97 4;11D98 0;
   11EF3 4;11EF5 0;11F00 4;11F02 0;11F36 4;11F3B 0;11F40 4;11F41 0;11F42 4;11F43 0;11F5A 4;
   11F5B 0;11FD5 5;11FF2 0;13440 4;13441 0;13447 4;13456 0;1611E 4;1612A 0;1612D 4;16130 0;
   16AF0 4;16AF5 0;16B30 4;16B37 0;16F4F 4;16F50 0;16F8F 4;16F93 0;16FE2 5;16FE3 0;16FE4 4;
   16FE5 0;1BC9D 4;1BC9F 0;1BCA0 5;1BCA4 0;1CC00 5;1CCD6 0;1CCF0 2;1CCFA 5;1CCFD 0;1CD00 5;
   1CEB4 0;1CEBA 5;1CED1 0;1CEE0 5;1CEF1 0;1CF00 4;1CF2E 0;1CF30 4;1CF47 0;1D167 4;1D16A 0;
   1D173 5;1D17B 4;1D183 0;1D185 4;1D18C 0;1D1AA 4;1D1AE 0;1D1E9 5;1D1EB 0;1D200 5;1D242 4;
   1D245 5;1D246 0;1D300 5;1D357 0;1D6C1 5;1D6C2 0;1D6DB 5;1D6DC 0;1D6FB 5;1D6FC 0;1D715 5;
   1D716 0;1D735 5;1D736 0;1D74F 5;1D750 0;1D76F 5;1D770 0;1D789 5;1D78A 0;1D7A9 5;1D7AA 0;
   1D7C3 5;1D7C4 0;1D7CE 2;1D800 0;1DA00 4;1DA37 0;1DA3B 4;1DA6D 0;1DA75 4;1DA76 0;1DA84 4;
   1DA85 0;1DA9B 4;1DAA0 0;1DAA1 4;1DAB0 0;1E000 4;1E007 0;1E008 4;1E019 0;1E01B 4;1E022 0;
   1E023 4;1E025 0;1E026 4;1E02B 0;1E08F 4;1E090 0;1E130 4;1E137 0;1E2AE 4;1E2AF 0;1E2EC 4;
   1E2F0 0;1E2FF 5;1E300 0;1E4EC 4;1E4F0 0;1E5EE 4;1E5F0 0;1E6E3 4;1E6E4 0;1E6E6 4;1E6E7 0;
   1E6EE 4;1E6F0 0;1E6F5 4;1E6F6 0;1E800 1;1E8D0 4;1E8D7 1;1E944 4;1E94B 1;1EEF0 5;1EEF2 1;
   1F000 5;1F02C 0;1F030 5;1F094 0;1F0A0 5;1F0AF 0;1F0B1 5;1F0C0 0;1F0C1 5;1F0D0 0;1F0D1 5;
   1F0F6 0;1F100 2;1F10B 5;1F110 0;1F12F 5;1F130 0;1F16A 5;1F170 0;1F1AD 5;1F1AE 0;1F260 5;
   1F266 0;1F300 5;1F6D9 0;1F6DC 5;1F6ED 0;1F6F0 5;1F6FD 0;1F700 5;1F7DA 0;1F7E0 5;1F7EC 0;
   1F7F0 5;1F7F1 0;1F800 5;1F80C 0;1F810 5;1F848 0;1F850 5;1F85A 0;1F860 5;1F888 0;1F890 5;
   1F8AE 0;1F8B0 5;1F8BC 0;1F8C0 5;1F8C2 0;1F8D0 5;1F8D9 0;1F900 5;1FA58 0;1FA60 5;1FA6E 0;
   1FA70 5;1FA7D 0;1FA80 5;1FA8B 0;1FA8E 5;1FAC7 0;1FAC8 5;1FAC9 0;1FACD 5;1FADD 0;1FADF 5;
   1FAEB 0;1FAEF 5;1FAF9 0;1FB00 5;1FB93 0;1FB94 5;1FBF0 2;1FBFA 5;1FBFB 0;1FFFE 5;20000 0;
   2FFFE 5;30000 0;3FFFE 5;40000 0;4FFFE 5;50000 0;5FFFE 5;60000 0;6FFFE 5;70000 0;7FFFE 5;
   80000 0;8FFFE 5;90000 0;9FFFE 5;A0000 0;AFFFE 5;B0000 0;BFFFE 5;C0000 0;CFFFE 5;D0000 0;
   DFFFE 5;E0100 4;E01F0 5;E1000 0;EFFFE 5;F0000 0;FFFFE 5;100000 0;10FFFE 5"

/-- What a character is for the direction of a text. -/
inductive Direction
  | leftToRight
  | rightToLeft
  | europeanNumber
  | arabicNumber
  /-- A mark on the character before it. -/
  | mark
  /-- Takes the direction of what is around it. -/
  | neutral
  /-- Ends a line or a passage, or gives a direction itself. -/
  | control
deriving DecidableEq, Repr

/-- The direction of a character. -/
def direction (c : Char) : Direction :=
  match stepValue directionSteps c.toNat with
  | 0 => .leftToRight
  | 1 => .rightToLeft
  | 2 => .europeanNumber
  | 3 => .arabicNumber
  | 4 => .mark
  | 5 => .neutral
  | _ => .control

/-! ## Rules -/

/-- A name with such a character is written from right to left in part. -/
def isRightward (c : Char) : Bool :=
  direction c == .rightToLeft || direction c == .arabicNumber

/-- May stand in a label written from left to right. -/
def fitsLeftToRight : Direction → Bool
  | .leftToRight | .europeanNumber | .mark | .neutral => true
  | .rightToLeft | .arabicNumber | .control => false

/-- May stand in a label written from right to left. -/
def fitsRightToLeft : Direction → Bool
  | .rightToLeft | .europeanNumber | .arabicNumber | .mark | .neutral => true
  | .leftToRight | .control => false

/-- May be the last of a label, before marks. -/
def mayEnd (first : Direction) (d : Direction) : Bool :=
  match d with
  | .europeanNumber => true
  | .leftToRight => first == .leftToRight
  | .rightToLeft | .arabicNumber => first == .rightToLeft
  | .mark | .neutral | .control => false

/-- The directions without the marks at the end. -/
def withoutMarks (ds : List Direction) : List Direction :=
  (ds.reverse.dropWhile (· == .mark)).reverse

/-- The directions of a label in a name that is written from right to left in part. -/
def isOneWay : List Direction → Bool
  | [] => true
  | first :: rest =>
    let rest := withoutMarks rest
    let ends := rest.getLast?.all (mayEnd first)
    match first with
    | .leftToRight => rest.all fitsLeftToRight && ends
    | .rightToLeft =>
      rest.all fitsRightToLeft && ends
        && !(rest.contains .europeanNumber && rest.contains .arabicNumber)
    | _ => false

/-- No label of a name hides its direction. -/
def isOneWayName (labels : List (List Char)) : Bool :=
  !(labels.any (·.any isRightward)) || labels.all fun label => isOneWay (label.map direction)

end ByteStream.Domain
