/-
# ByteStream.Text.Composed -- texts with their marks composed

A letter with a mark can be one character or two. The composed form (normalization form C) makes
such texts equal: every character is taken apart, marks are sorted by their combining class, and
what stands next to each other is put together again where a character for it exists. A mark is
blocked from a letter by a mark of the same or a higher class between them. The data is that of
Unicode 17; syllables of the Hangul script are taken apart and put together by arithmetic.

The characters that come apart here are those that are put together again. Those that are taken
apart for good do not occur in a name after its characters have been mapped.
-/

import ByteStream.Text.Table

namespace ByteStream.Text

/-! ## Data -/

/-- Where a combining class starts, and the class. -/
def combiningClasses : Array Row := rows
  "300 E6;315 E8;316 DC;31A E8;31B D8;31C DC;321 CA;323 DC;327 CA;329 DC;334 1;339 DC;33D E6;
   345 F0;346 E6;347 DC;34A E6;34D DC;34F 0;350 E6;353 DC;357 E6;358 E8;359 DC;35B E6;35C E9;
   35D EA;35F E9;360 EA;362 E9;363 E6;370 0;483 E6;488 0;591 DC;592 E6;596 DC;597 E6;59A DE;
   59B DC;59C E6;5A2 DC;5A8 E6;5AA DC;5AB E6;5AD DE;5AE E4;5AF E6;5B0 A;5B1 B;5B2 C;5B3 D;5B4 E;
   5B5 F;5B6 10;5B7 11;5B8 12;5B9 13;5BB 14;5BC 15;5BD 16;5BE 0;5BF 17;5C0 0;5C1 18;5C2 19;5C3 0;
   5C4 E6;5C5 DC;5C6 0;5C7 12;5C8 0;610 E6;618 1E;619 1F;61A 20;61B 0;64B 1B;64C 1C;64D 1D;
   64E 1E;64F 1F;650 20;651 21;652 22;653 E6;655 DC;657 E6;65C DC;65D E6;65F DC;660 0;670 23;
   671 0;6D6 E6;6DD 0;6DF E6;6E3 DC;6E4 E6;6E5 0;6E7 E6;6E9 0;6EA DC;6EB E6;6ED DC;6EE 0;711 24;
   712 0;730 E6;731 DC;732 E6;734 DC;735 E6;737 DC;73A E6;73B DC;73D E6;73E DC;73F E6;742 DC;
   743 E6;744 DC;745 E6;746 DC;747 E6;748 DC;749 E6;74B 0;7EB E6;7F2 DC;7F3 E6;7F4 0;7FD DC;
   7FE 0;816 E6;81A 0;81B E6;824 0;825 E6;828 0;829 E6;82E 0;859 DC;85C 0;897 E6;899 DC;89C E6;
   8A0 0;8CA E6;8CF DC;8D4 E6;8E2 0;8E3 DC;8E4 E6;8E6 DC;8E7 E6;8E9 DC;8EA E6;8ED DC;8F0 1B;
   8F1 1C;8F2 1D;8F3 E6;8F6 DC;8F7 E6;8F9 DC;8FB E6;900 0;93C 7;93D 0;94D 9;94E 0;951 E6;952 DC;
   953 E6;955 0;9BC 7;9BD 0;9CD 9;9CE 0;9FE E6;9FF 0;A3C 7;A3D 0;A4D 9;A4E 0;ABC 7;ABD 0;ACD 9;
   ACE 0;B3C 7;B3D 0;B4D 9;B4E 0;BCD 9;BCE 0;C3C 7;C3D 0;C4D 9;C4E 0;C55 54;C56 5B;C57 0;CBC 7;
   CBD 0;CCD 9;CCE 0;D3B 9;D3D 0;D4D 9;D4E 0;DCA 9;DCB 0;E38 67;E3A 9;E3B 0;E48 6B;E4C 0;EB8 76;
   EBA 9;EBB 0;EC8 7A;ECC 0;F18 DC;F1A 0;F35 DC;F36 0;F37 DC;F38 0;F39 D8;F3A 0;F71 81;F72 82;
   F73 0;F74 84;F75 0;F7A 82;F7E 0;F80 82;F81 0;F82 E6;F84 9;F85 0;F86 E6;F88 0;FC6 DC;FC7 0;
   1037 7;1038 0;1039 9;103B 0;108D DC;108E 0;135D E6;1360 0;1714 9;1716 0;1734 9;1735 0;17D2 9;
   17D3 0;17DD E6;17DE 0;18A9 E4;18AA 0;1939 DE;193A E6;193B DC;193C 0;1A17 E6;1A18 DC;1A19 0;
   1A60 9;1A61 0;1A75 E6;1A7D 0;1A7F DC;1A80 0;1AB0 E6;1AB5 DC;1ABB E6;1ABD DC;1ABE 0;1ABF DC;
   1AC1 E6;1AC3 DC;1AC5 E6;1ACA DC;1ACB E6;1ADD DC;1ADE 0;1AE0 E6;1AE6 DC;1AE7 E6;1AEB EA;1AEC 0;
   1B34 7;1B35 0;1B44 9;1B45 0;1B6B E6;1B6C DC;1B6D E6;1B74 0;1BAA 9;1BAC 0;1BE6 7;1BE7 0;1BF2 9;
   1BF4 0;1C37 7;1C38 0;1CD0 E6;1CD3 0;1CD4 1;1CD5 DC;1CDA E6;1CDC DC;1CE0 E6;1CE1 0;1CE2 1;
   1CE9 0;1CED DC;1CEE 0;1CF4 E6;1CF5 0;1CF8 E6;1CFA 0;1DC0 E6;1DC2 DC;1DC3 E6;1DCA DC;1DCB E6;
   1DCD EA;1DCE D6;1DCF DC;1DD0 CA;1DD1 E6;1DF6 E8;1DF7 E4;1DF9 DC;1DFA DA;1DFB E6;1DFC E9;
   1DFD DC;1DFE E6;1DFF DC;1E00 0;20D0 E6;20D2 1;20D4 E6;20D8 1;20DB E6;20DD 0;20E1 E6;20E2 0;
   20E5 1;20E7 E6;20E8 DC;20E9 E6;20EA 1;20EC DC;20F0 E6;20F1 0;2CEF E6;2CF2 0;2D7F 9;2D80 0;
   2DE0 E6;2E00 0;302A DA;302B E4;302C E8;302D DE;302E E0;3030 0;3099 8;309B 0;A66F E6;A670 0;
   A674 E6;A67E 0;A69E E6;A6A0 0;A6F0 E6;A6F2 0;A806 9;A807 0;A82C 9;A82D 0;A8C4 9;A8C5 0;
   A8E0 E6;A8F2 0;A92B DC;A92E 0;A953 9;A954 0;A9B3 7;A9B4 0;A9C0 9;A9C1 0;AAB0 E6;AAB1 0;
   AAB2 E6;AAB4 DC;AAB5 0;AAB7 E6;AAB9 0;AABE E6;AAC0 0;AAC1 E6;AAC2 0;AAF6 9;AAF7 0;ABED 9;
   ABEE 0;FB1E 1A;FB1F 0;FE20 E6;FE27 DC;FE2E E6;FE30 0;101FD DC;101FE 0;102E0 DC;102E1 0;
   10376 E6;1037B 0;10A0D DC;10A0E 0;10A0F E6;10A10 0;10A38 E6;10A39 1;10A3A DC;10A3B 0;10A3F 9;
   10A40 0;10AE5 E6;10AE6 DC;10AE7 0;10D24 E6;10D28 0;10D69 E6;10D6E 0;10EAB E6;10EAD 0;10EFA DC;
   10EFC 0;10EFD DC;10F00 0;10F46 DC;10F48 E6;10F4B DC;10F4C E6;10F4D DC;10F51 0;10F82 E6;
   10F83 DC;10F84 E6;10F85 DC;10F86 0;11046 9;11047 0;11070 9;11071 0;1107F 9;11080 0;110B9 9;
   110BA 7;110BB 0;11100 E6;11103 0;11133 9;11135 0;11173 7;11174 0;111C0 9;111C1 0;111CA 7;
   111CB 0;11235 9;11236 7;11237 0;112E9 7;112EA 9;112EB 0;1133B 7;1133D 0;1134D 9;1134E 0;
   11366 E6;1136D 0;11370 E6;11375 0;113CE 9;113D1 0;11442 9;11443 0;11446 7;11447 0;1145E E6;
   1145F 0;114C2 9;114C3 7;114C4 0;115BF 9;115C0 7;115C1 0;1163F 9;11640 0;116B6 9;116B7 7;
   116B8 0;1172B 9;1172C 0;11839 9;1183A 7;1183B 0;1193D 9;1193F 0;11943 7;11944 0;119E0 9;
   119E1 0;11A34 9;11A35 0;11A47 9;11A48 0;11A99 9;11A9A 0;11C3F 9;11C40 0;11D42 7;11D43 0;
   11D44 9;11D46 0;11D97 9;11D98 0;11F41 9;11F43 0;1612F 9;16130 0;16AF0 1;16AF5 0;16B30 E6;
   16B37 0;16FF0 6;16FF2 0;1BC9E 1;1BC9F 0;1D165 D8;1D167 1;1D16A 0;1D16D E2;1D16E D8;1D173 0;
   1D17B DC;1D183 0;1D185 E6;1D18A DC;1D18C 0;1D1AA E6;1D1AE 0;1D242 E6;1D245 0;1E000 E6;1E007 0;
   1E008 E6;1E019 0;1E01B E6;1E022 0;1E023 E6;1E025 0;1E026 E6;1E02B 0;1E08F E6;1E090 0;1E130 E6;
   1E137 0;1E2AE E6;1E2AF 0;1E2EC E6;1E2F0 0;1E4EC E8;1E4EE DC;1E4EF E6;1E4F0 0;1E5EE E6;
   1E5EF DC;1E5F0 0;1E6E3 E6;1E6E4 0;1E6E6 E6;1E6E7 0;1E6EE E6;1E6F0 0;1E6F5 E6;1E6F6 0;1E8D0 DC;
   1E8D7 0;1E944 E6;1E94A 7;1E94B 0"

/-- A composed character and its two parts. -/
def composites : Array Row := rows
  "C0 41 300;C1 41 301;C2 41 302;C3 41 303;C4 41 308;C5 41 30A;C7 43 327;C8 45 300;C9 45 301;
   CA 45 302;CB 45 308;CC 49 300;CD 49 301;CE 49 302;CF 49 308;D1 4E 303;D2 4F 300;D3 4F 301;
   D4 4F 302;D5 4F 303;D6 4F 308;D9 55 300;DA 55 301;DB 55 302;DC 55 308;DD 59 301;E0 61 300;
   E1 61 301;E2 61 302;E3 61 303;E4 61 308;E5 61 30A;E7 63 327;E8 65 300;E9 65 301;EA 65 302;
   EB 65 308;EC 69 300;ED 69 301;EE 69 302;EF 69 308;F1 6E 303;F2 6F 300;F3 6F 301;F4 6F 302;
   F5 6F 303;F6 6F 308;F9 75 300;FA 75 301;FB 75 302;FC 75 308;FD 79 301;FF 79 308;100 41 304;
   101 61 304;102 41 306;103 61 306;104 41 328;105 61 328;106 43 301;107 63 301;108 43 302;
   109 63 302;10A 43 307;10B 63 307;10C 43 30C;10D 63 30C;10E 44 30C;10F 64 30C;112 45 304;
   113 65 304;114 45 306;115 65 306;116 45 307;117 65 307;118 45 328;119 65 328;11A 45 30C;
   11B 65 30C;11C 47 302;11D 67 302;11E 47 306;11F 67 306;120 47 307;121 67 307;122 47 327;
   123 67 327;124 48 302;125 68 302;128 49 303;129 69 303;12A 49 304;12B 69 304;12C 49 306;
   12D 69 306;12E 49 328;12F 69 328;130 49 307;134 4A 302;135 6A 302;136 4B 327;137 6B 327;
   139 4C 301;13A 6C 301;13B 4C 327;13C 6C 327;13D 4C 30C;13E 6C 30C;143 4E 301;144 6E 301;
   145 4E 327;146 6E 327;147 4E 30C;148 6E 30C;14C 4F 304;14D 6F 304;14E 4F 306;14F 6F 306;
   150 4F 30B;151 6F 30B;154 52 301;155 72 301;156 52 327;157 72 327;158 52 30C;159 72 30C;
   15A 53 301;15B 73 301;15C 53 302;15D 73 302;15E 53 327;15F 73 327;160 53 30C;161 73 30C;
   162 54 327;163 74 327;164 54 30C;165 74 30C;168 55 303;169 75 303;16A 55 304;16B 75 304;
   16C 55 306;16D 75 306;16E 55 30A;16F 75 30A;170 55 30B;171 75 30B;172 55 328;173 75 328;
   174 57 302;175 77 302;176 59 302;177 79 302;178 59 308;179 5A 301;17A 7A 301;17B 5A 307;
   17C 7A 307;17D 5A 30C;17E 7A 30C;1A0 4F 31B;1A1 6F 31B;1AF 55 31B;1B0 75 31B;1CD 41 30C;
   1CE 61 30C;1CF 49 30C;1D0 69 30C;1D1 4F 30C;1D2 6F 30C;1D3 55 30C;1D4 75 30C;1D5 DC 304;
   1D6 FC 304;1D7 DC 301;1D8 FC 301;1D9 DC 30C;1DA FC 30C;1DB DC 300;1DC FC 300;1DE C4 304;
   1DF E4 304;1E0 226 304;1E1 227 304;1E2 C6 304;1E3 E6 304;1E6 47 30C;1E7 67 30C;1E8 4B 30C;
   1E9 6B 30C;1EA 4F 328;1EB 6F 328;1EC 1EA 304;1ED 1EB 304;1EE 1B7 30C;1EF 292 30C;1F0 6A 30C;
   1F4 47 301;1F5 67 301;1F8 4E 300;1F9 6E 300;1FA C5 301;1FB E5 301;1FC C6 301;1FD E6 301;
   1FE D8 301;1FF F8 301;200 41 30F;201 61 30F;202 41 311;203 61 311;204 45 30F;205 65 30F;
   206 45 311;207 65 311;208 49 30F;209 69 30F;20A 49 311;20B 69 311;20C 4F 30F;20D 6F 30F;
   20E 4F 311;20F 6F 311;210 52 30F;211 72 30F;212 52 311;213 72 311;214 55 30F;215 75 30F;
   216 55 311;217 75 311;218 53 326;219 73 326;21A 54 326;21B 74 326;21E 48 30C;21F 68 30C;
   226 41 307;227 61 307;228 45 327;229 65 327;22A D6 304;22B F6 304;22C D5 304;22D F5 304;
   22E 4F 307;22F 6F 307;230 22E 304;231 22F 304;232 59 304;233 79 304;385 A8 301;386 391 301;
   388 395 301;389 397 301;38A 399 301;38C 39F 301;38E 3A5 301;38F 3A9 301;390 3CA 301;
   3AA 399 308;3AB 3A5 308;3AC 3B1 301;3AD 3B5 301;3AE 3B7 301;3AF 3B9 301;3B0 3CB 301;
   3CA 3B9 308;3CB 3C5 308;3CC 3BF 301;3CD 3C5 301;3CE 3C9 301;3D3 3D2 301;3D4 3D2 308;
   400 415 300;401 415 308;403 413 301;407 406 308;40C 41A 301;40D 418 300;40E 423 306;
   419 418 306;439 438 306;450 435 300;451 435 308;453 433 301;457 456 308;45C 43A 301;
   45D 438 300;45E 443 306;476 474 30F;477 475 30F;4C1 416 306;4C2 436 306;4D0 410 306;
   4D1 430 306;4D2 410 308;4D3 430 308;4D6 415 306;4D7 435 306;4DA 4D8 308;4DB 4D9 308;
   4DC 416 308;4DD 436 308;4DE 417 308;4DF 437 308;4E2 418 304;4E3 438 304;4E4 418 308;
   4E5 438 308;4E6 41E 308;4E7 43E 308;4EA 4E8 308;4EB 4E9 308;4EC 42D 308;4ED 44D 308;
   4EE 423 304;4EF 443 304;4F0 423 308;4F1 443 308;4F2 423 30B;4F3 443 30B;4F4 427 308;
   4F5 447 308;4F8 42B 308;4F9 44B 308;622 627 653;623 627 654;624 648 654;625 627 655;
   626 64A 654;6C0 6D5 654;6C2 6C1 654;6D3 6D2 654;929 928 93C;931 930 93C;934 933 93C;
   9CB 9C7 9BE;9CC 9C7 9D7;B48 B47 B56;B4B B47 B3E;B4C B47 B57;B94 B92 BD7;BCA BC6 BBE;
   BCB BC7 BBE;BCC BC6 BD7;C48 C46 C56;CC0 CBF CD5;CC7 CC6 CD5;CC8 CC6 CD6;CCA CC6 CC2;
   CCB CCA CD5;D4A D46 D3E;D4B D47 D3E;D4C D46 D57;DDA DD9 DCA;DDC DD9 DCF;DDD DDC DCA;
   DDE DD9 DDF;1026 1025 102E;1B06 1B05 1B35;1B08 1B07 1B35;1B0A 1B09 1B35;1B0C 1B0B 1B35;
   1B0E 1B0D 1B35;1B12 1B11 1B35;1B3B 1B3A 1B35;1B3D 1B3C 1B35;1B40 1B3E 1B35;1B41 1B3F 1B35;
   1B43 1B42 1B35;1E00 41 325;1E01 61 325;1E02 42 307;1E03 62 307;1E04 42 323;1E05 62 323;
   1E06 42 331;1E07 62 331;1E08 C7 301;1E09 E7 301;1E0A 44 307;1E0B 64 307;1E0C 44 323;
   1E0D 64 323;1E0E 44 331;1E0F 64 331;1E10 44 327;1E11 64 327;1E12 44 32D;1E13 64 32D;
   1E14 112 300;1E15 113 300;1E16 112 301;1E17 113 301;1E18 45 32D;1E19 65 32D;1E1A 45 330;
   1E1B 65 330;1E1C 228 306;1E1D 229 306;1E1E 46 307;1E1F 66 307;1E20 47 304;1E21 67 304;
   1E22 48 307;1E23 68 307;1E24 48 323;1E25 68 323;1E26 48 308;1E27 68 308;1E28 48 327;
   1E29 68 327;1E2A 48 32E;1E2B 68 32E;1E2C 49 330;1E2D 69 330;1E2E CF 301;1E2F EF 301;
   1E30 4B 301;1E31 6B 301;1E32 4B 323;1E33 6B 323;1E34 4B 331;1E35 6B 331;1E36 4C 323;
   1E37 6C 323;1E38 1E36 304;1E39 1E37 304;1E3A 4C 331;1E3B 6C 331;1E3C 4C 32D;1E3D 6C 32D;
   1E3E 4D 301;1E3F 6D 301;1E40 4D 307;1E41 6D 307;1E42 4D 323;1E43 6D 323;1E44 4E 307;
   1E45 6E 307;1E46 4E 323;1E47 6E 323;1E48 4E 331;1E49 6E 331;1E4A 4E 32D;1E4B 6E 32D;
   1E4C D5 301;1E4D F5 301;1E4E D5 308;1E4F F5 308;1E50 14C 300;1E51 14D 300;1E52 14C 301;
   1E53 14D 301;1E54 50 301;1E55 70 301;1E56 50 307;1E57 70 307;1E58 52 307;1E59 72 307;
   1E5A 52 323;1E5B 72 323;1E5C 1E5A 304;1E5D 1E5B 304;1E5E 52 331;1E5F 72 331;1E60 53 307;
   1E61 73 307;1E62 53 323;1E63 73 323;1E64 15A 307;1E65 15B 307;1E66 160 307;1E67 161 307;
   1E68 1E62 307;1E69 1E63 307;1E6A 54 307;1E6B 74 307;1E6C 54 323;1E6D 74 323;1E6E 54 331;
   1E6F 74 331;1E70 54 32D;1E71 74 32D;1E72 55 324;1E73 75 324;1E74 55 330;1E75 75 330;
   1E76 55 32D;1E77 75 32D;1E78 168 301;1E79 169 301;1E7A 16A 308;1E7B 16B 308;1E7C 56 303;
   1E7D 76 303;1E7E 56 323;1E7F 76 323;1E80 57 300;1E81 77 300;1E82 57 301;1E83 77 301;
   1E84 57 308;1E85 77 308;1E86 57 307;1E87 77 307;1E88 57 323;1E89 77 323;1E8A 58 307;
   1E8B 78 307;1E8C 58 308;1E8D 78 308;1E8E 59 307;1E8F 79 307;1E90 5A 302;1E91 7A 302;
   1E92 5A 323;1E93 7A 323;1E94 5A 331;1E95 7A 331;1E96 68 331;1E97 74 308;1E98 77 30A;
   1E99 79 30A;1E9B 17F 307;1EA0 41 323;1EA1 61 323;1EA2 41 309;1EA3 61 309;1EA4 C2 301;
   1EA5 E2 301;1EA6 C2 300;1EA7 E2 300;1EA8 C2 309;1EA9 E2 309;1EAA C2 303;1EAB E2 303;
   1EAC 1EA0 302;1EAD 1EA1 302;1EAE 102 301;1EAF 103 301;1EB0 102 300;1EB1 103 300;1EB2 102 309;
   1EB3 103 309;1EB4 102 303;1EB5 103 303;1EB6 1EA0 306;1EB7 1EA1 306;1EB8 45 323;1EB9 65 323;
   1EBA 45 309;1EBB 65 309;1EBC 45 303;1EBD 65 303;1EBE CA 301;1EBF EA 301;1EC0 CA 300;
   1EC1 EA 300;1EC2 CA 309;1EC3 EA 309;1EC4 CA 303;1EC5 EA 303;1EC6 1EB8 302;1EC7 1EB9 302;
   1EC8 49 309;1EC9 69 309;1ECA 49 323;1ECB 69 323;1ECC 4F 323;1ECD 6F 323;1ECE 4F 309;
   1ECF 6F 309;1ED0 D4 301;1ED1 F4 301;1ED2 D4 300;1ED3 F4 300;1ED4 D4 309;1ED5 F4 309;
   1ED6 D4 303;1ED7 F4 303;1ED8 1ECC 302;1ED9 1ECD 302;1EDA 1A0 301;1EDB 1A1 301;1EDC 1A0 300;
   1EDD 1A1 300;1EDE 1A0 309;1EDF 1A1 309;1EE0 1A0 303;1EE1 1A1 303;1EE2 1A0 323;1EE3 1A1 323;
   1EE4 55 323;1EE5 75 323;1EE6 55 309;1EE7 75 309;1EE8 1AF 301;1EE9 1B0 301;1EEA 1AF 300;
   1EEB 1B0 300;1EEC 1AF 309;1EED 1B0 309;1EEE 1AF 303;1EEF 1B0 303;1EF0 1AF 323;1EF1 1B0 323;
   1EF2 59 300;1EF3 79 300;1EF4 59 323;1EF5 79 323;1EF6 59 309;1EF7 79 309;1EF8 59 303;
   1EF9 79 303;1F00 3B1 313;1F01 3B1 314;1F02 1F00 300;1F03 1F01 300;1F04 1F00 301;1F05 1F01 301;
   1F06 1F00 342;1F07 1F01 342;1F08 391 313;1F09 391 314;1F0A 1F08 300;1F0B 1F09 300;
   1F0C 1F08 301;1F0D 1F09 301;1F0E 1F08 342;1F0F 1F09 342;1F10 3B5 313;1F11 3B5 314;
   1F12 1F10 300;1F13 1F11 300;1F14 1F10 301;1F15 1F11 301;1F18 395 313;1F19 395 314;
   1F1A 1F18 300;1F1B 1F19 300;1F1C 1F18 301;1F1D 1F19 301;1F20 3B7 313;1F21 3B7 314;
   1F22 1F20 300;1F23 1F21 300;1F24 1F20 301;1F25 1F21 301;1F26 1F20 342;1F27 1F21 342;
   1F28 397 313;1F29 397 314;1F2A 1F28 300;1F2B 1F29 300;1F2C 1F28 301;1F2D 1F29 301;
   1F2E 1F28 342;1F2F 1F29 342;1F30 3B9 313;1F31 3B9 314;1F32 1F30 300;1F33 1F31 300;
   1F34 1F30 301;1F35 1F31 301;1F36 1F30 342;1F37 1F31 342;1F38 399 313;1F39 399 314;
   1F3A 1F38 300;1F3B 1F39 300;1F3C 1F38 301;1F3D 1F39 301;1F3E 1F38 342;1F3F 1F39 342;
   1F40 3BF 313;1F41 3BF 314;1F42 1F40 300;1F43 1F41 300;1F44 1F40 301;1F45 1F41 301;
   1F48 39F 313;1F49 39F 314;1F4A 1F48 300;1F4B 1F49 300;1F4C 1F48 301;1F4D 1F49 301;
   1F50 3C5 313;1F51 3C5 314;1F52 1F50 300;1F53 1F51 300;1F54 1F50 301;1F55 1F51 301;
   1F56 1F50 342;1F57 1F51 342;1F59 3A5 314;1F5B 1F59 300;1F5D 1F59 301;1F5F 1F59 342;
   1F60 3C9 313;1F61 3C9 314;1F62 1F60 300;1F63 1F61 300;1F64 1F60 301;1F65 1F61 301;
   1F66 1F60 342;1F67 1F61 342;1F68 3A9 313;1F69 3A9 314;1F6A 1F68 300;1F6B 1F69 300;
   1F6C 1F68 301;1F6D 1F69 301;1F6E 1F68 342;1F6F 1F69 342;1F70 3B1 300;1F72 3B5 300;
   1F74 3B7 300;1F76 3B9 300;1F78 3BF 300;1F7A 3C5 300;1F7C 3C9 300;1F80 1F00 345;1F81 1F01 345;
   1F82 1F02 345;1F83 1F03 345;1F84 1F04 345;1F85 1F05 345;1F86 1F06 345;1F87 1F07 345;
   1F88 1F08 345;1F89 1F09 345;1F8A 1F0A 345;1F8B 1F0B 345;1F8C 1F0C 345;1F8D 1F0D 345;
   1F8E 1F0E 345;1F8F 1F0F 345;1F90 1F20 345;1F91 1F21 345;1F92 1F22 345;1F93 1F23 345;
   1F94 1F24 345;1F95 1F25 345;1F96 1F26 345;1F97 1F27 345;1F98 1F28 345;1F99 1F29 345;
   1F9A 1F2A 345;1F9B 1F2B 345;1F9C 1F2C 345;1F9D 1F2D 345;1F9E 1F2E 345;1F9F 1F2F 345;
   1FA0 1F60 345;1FA1 1F61 345;1FA2 1F62 345;1FA3 1F63 345;1FA4 1F64 345;1FA5 1F65 345;
   1FA6 1F66 345;1FA7 1F67 345;1FA8 1F68 345;1FA9 1F69 345;1FAA 1F6A 345;1FAB 1F6B 345;
   1FAC 1F6C 345;1FAD 1F6D 345;1FAE 1F6E 345;1FAF 1F6F 345;1FB0 3B1 306;1FB1 3B1 304;
   1FB2 1F70 345;1FB3 3B1 345;1FB4 3AC 345;1FB6 3B1 342;1FB7 1FB6 345;1FB8 391 306;1FB9 391 304;
   1FBA 391 300;1FBC 391 345;1FC1 A8 342;1FC2 1F74 345;1FC3 3B7 345;1FC4 3AE 345;1FC6 3B7 342;
   1FC7 1FC6 345;1FC8 395 300;1FCA 397 300;1FCC 397 345;1FCD 1FBF 300;1FCE 1FBF 301;
   1FCF 1FBF 342;1FD0 3B9 306;1FD1 3B9 304;1FD2 3CA 300;1FD6 3B9 342;1FD7 3CA 342;1FD8 399 306;
   1FD9 399 304;1FDA 399 300;1FDD 1FFE 300;1FDE 1FFE 301;1FDF 1FFE 342;1FE0 3C5 306;1FE1 3C5 304;
   1FE2 3CB 300;1FE4 3C1 313;1FE5 3C1 314;1FE6 3C5 342;1FE7 3CB 342;1FE8 3A5 306;1FE9 3A5 304;
   1FEA 3A5 300;1FEC 3A1 314;1FED A8 300;1FF2 1F7C 345;1FF3 3C9 345;1FF4 3CE 345;1FF6 3C9 342;
   1FF7 1FF6 345;1FF8 39F 300;1FFA 3A9 300;1FFC 3A9 345;219A 2190 338;219B 2192 338;
   21AE 2194 338;21CD 21D0 338;21CE 21D4 338;21CF 21D2 338;2204 2203 338;2209 2208 338;
   220C 220B 338;2224 2223 338;2226 2225 338;2241 223C 338;2244 2243 338;2247 2245 338;
   2249 2248 338;2260 3D 338;2262 2261 338;226D 224D 338;226E 3C 338;226F 3E 338;2270 2264 338;
   2271 2265 338;2274 2272 338;2275 2273 338;2278 2276 338;2279 2277 338;2280 227A 338;
   2281 227B 338;2284 2282 338;2285 2283 338;2288 2286 338;2289 2287 338;22AC 22A2 338;
   22AD 22A8 338;22AE 22A9 338;22AF 22AB 338;22E0 227C 338;22E1 227D 338;22E2 2291 338;
   22E3 2292 338;22EA 22B2 338;22EB 22B3 338;22EC 22B4 338;22ED 22B5 338;304C 304B 3099;
   304E 304D 3099;3050 304F 3099;3052 3051 3099;3054 3053 3099;3056 3055 3099;3058 3057 3099;
   305A 3059 3099;305C 305B 3099;305E 305D 3099;3060 305F 3099;3062 3061 3099;3065 3064 3099;
   3067 3066 3099;3069 3068 3099;3070 306F 3099;3071 306F 309A;3073 3072 3099;3074 3072 309A;
   3076 3075 3099;3077 3075 309A;3079 3078 3099;307A 3078 309A;307C 307B 3099;307D 307B 309A;
   3094 3046 3099;309E 309D 3099;30AC 30AB 3099;30AE 30AD 3099;30B0 30AF 3099;30B2 30B1 3099;
   30B4 30B3 3099;30B6 30B5 3099;30B8 30B7 3099;30BA 30B9 3099;30BC 30BB 3099;30BE 30BD 3099;
   30C0 30BF 3099;30C2 30C1 3099;30C5 30C4 3099;30C7 30C6 3099;30C9 30C8 3099;30D0 30CF 3099;
   30D1 30CF 309A;30D3 30D2 3099;30D4 30D2 309A;30D6 30D5 3099;30D7 30D5 309A;30D9 30D8 3099;
   30DA 30D8 309A;30DC 30DB 3099;30DD 30DB 309A;30F4 30A6 3099;30F7 30EF 3099;30F8 30F0 3099;
   30F9 30F1 3099;30FA 30F2 3099;30FE 30FD 3099;105C9 105D2 307;105E4 105DA 307;
   1109A 11099 110BA;1109C 1109B 110BA;110AB 110A5 110BA;1112E 11131 11127;1112F 11132 11127;
   1134B 11347 1133E;1134C 11347 11357;11383 11382 113C9;11385 11384 113BB;1138E 1138B 113C2;
   11391 11390 113C9;113C5 113C2 113C2;113C7 113C2 113B8;113C8 113C2 113C9;114BB 114B9 114BA;
   114BC 114B9 114B0;114BE 114B9 114BD;115BA 115B8 115AF;115BB 115B9 115AF;11938 11935 11930;
   16121 1611E 1611E;16122 1611E 16129;16123 1611E 1611F;16124 16129 1611F;16125 1611E 16120;
   16126 16121 1611F;16127 16122 1611F;16128 16121 16120;16D68 16D67 16D67;16D69 16D63 16D67;
   16D6A 16D69 16D67"

/-- The combining class of a character; 0 if it is no mark that can be moved. -/
def combiningClass (c : Char) : Nat := stepValue combiningClasses c.toNat

/-! ## Syllables -/

/-- The first syllable of the Hangul script. -/
def firstSyllable : Nat := 0xAC00

/-- The first leading consonant, the first vowel, and the place before the first trailing
consonant. -/
def firstLead : Nat := 0x1100

@[inherit_doc firstLead]
def firstVowel : Nat := 0x1161

@[inherit_doc firstLead]
def beforeTrails : Nat := 0x11A7

/-- How many leading consonants, vowels and trails there are; having no trail is one of them. -/
def leadCount : Nat := 19

@[inherit_doc leadCount]
def vowelCount : Nat := 21

@[inherit_doc leadCount]
def trailCount : Nat := 28

/-- The parts of a syllable: an open syllable and a trail, or a lead and a vowel. -/
def syllableParts? (n : Nat) : Option (Nat × Nat) :=
  let i := n - firstSyllable
  if n < firstSyllable ∨ leadCount * vowelCount * trailCount ≤ i then none
  else if i % trailCount ≠ 0 then some (n - i % trailCount, beforeTrails + i % trailCount)
  else some (firstLead + i / trailCount / vowelCount, firstVowel + i / trailCount % vowelCount)

/-- The syllable of two parts. -/
def syllable? (a b : Nat) : Option Nat :=
  if firstLead ≤ a ∧ a < firstLead + leadCount ∧ firstVowel ≤ b ∧ b < firstVowel + vowelCount then
    some (firstSyllable + ((a - firstLead) * vowelCount + (b - firstVowel)) * trailCount)
  else if firstSyllable ≤ a ∧ a < firstSyllable + leadCount * vowelCount * trailCount ∧
      (a - firstSyllable) % trailCount = 0 ∧ beforeTrails < b ∧ b < beforeTrails + trailCount then
    some (a + (b - beforeTrails))
  else none

/-! ## Taking apart and putting together -/

/-- The row of a composed character has these parts. -/
def hasParts (a b : Nat) (row : Row) : Bool := row.getD 1 0 == a && row.getD 2 0 == b

/-- The two parts of a composed code point. -/
def codeParts? (n : Nat) : Option (Nat × Nat) :=
  match syllableParts? n, rowOf? composites n with
  | some parts, _ => some parts
  | none, some row => some (row.getD 1 0, row.getD 2 0)
  | none, none => none

/-- The composed code point of two parts. -/
def codeJoined? (a b : Nat) : Option Nat :=
  match syllable? a b, composites.find? (hasParts a b) with
  | some n, _ => some n
  | none, some row => row[0]?
  | none, none => none

/-- The two parts of a composed character. -/
def parts? (c : Char) : Option (Char × Char) :=
  (codeParts? c.toNat).map fun (a, b) => (Char.ofNat a, Char.ofNat b)

/-- The composed character of two parts. -/
def joined? (a b : Char) : Option Char := (codeJoined? a.toNat b.toNat).map Char.ofNat

/-- How often the first part can come apart again. -/
def maxDepth : Nat := 3

/-- Takes a character apart, at most so many times. -/
def takenApart (c : Char) : Nat → List Char
  | 0 => [c]
  | depth + 1 =>
    match parts? c with
    | none => [c]
    | some (a, b) => takenApart a depth ++ [b]

/-- Puts a character behind those before it, the last of which comes first, and moves it over the
marks of a higher class. -/
def place (c : Char) : List Char → List Char
  | [] => [c]
  | last :: before =>
    if combiningClass c ≠ 0 ∧ combiningClass c < combiningClass last then last :: place c before
    else c :: last :: before

/-- The text with its marks in order. -/
def ordered (cs : List Char) : List Char := (cs.foldl (fun before c => place c before) []).reverse

/-- Puts a text together behind `start`. The marks that were not put together with `start` are in
`passed`, the last one first. -/
def puttingTogether (start : Char) (passed : List Char) : List Char → List Char
  | [] => start :: passed.reverse
  | c :: cs =>
    let blocked := match passed with
      | [] => false
      | mark :: _ => combiningClass c ≤ combiningClass mark
    match if blocked then none else joined? start c with
    | some whole => puttingTogether whole passed cs
    | none =>
      if combiningClass c = 0 then start :: passed.reverse ++ puttingTogether c [] cs
      else puttingTogether start (c :: passed) cs

/-- Below this character nothing comes apart for good and nothing is a mark. -/
def firstMark : Char := '\u0300'

/-- The composed form of a text. -/
def composed (cs : List Char) : List Char :=
  if cs.all (· < firstMark) then cs
  else
    match ordered (cs.flatMap fun c => takenApart c maxDepth) with
    | [] => []
    | c :: cs => puttingTogether c [] cs

end ByteStream.Text
