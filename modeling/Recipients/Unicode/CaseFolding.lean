import Recipients.Unicode.CodeSet

/-
  Simple case folding (Unicode 16): the characters that fold together with a given one.
-/

namespace Recipients.Unicode

def caseFolding : List Mapping := readTable
  "41-4A=61 4B=6B,212A 4C-52=6C 53=73,17F 54-5A=74 61-6A=41 6B=4B,212A 6C-72=4C 73=53,17F 74-7A=54
   B5=39C,3BC C0-C4=E0 C5=E5,212B C6-D6=E6 D8-DE=F8 DF=1E9E E0-E4=C0 E5=C5,212B E6-F6=C6 F8-FE=D8
   FF=178 100=101 101=100 102=103 103=102 104=105 105=104 106=107 107=106 108=109 109=108 10A=10B
   10B=10A 10C=10D 10D=10C 10E=10F 10F=10E 110=111 111=110 112=113 113=112 114=115 115=114 116=117
   117=116 118=119 119=118 11A=11B 11B=11A 11C=11D 11D=11C 11E=11F 11F=11E 120=121 121=120 122=123
   123=122 124=125 125=124 126=127 127=126 128=129 129=128 12A=12B 12B=12A 12C=12D 12D=12C 12E=12F
   12F=12E 132=133 133=132 134=135 135=134 136=137 137=136 139=13A 13A=139 13B=13C 13C=13B 13D=13E
   13E=13D 13F=140 140=13F 141=142 142=141 143=144 144=143 145=146 146=145 147=148 148=147 14A=14B
   14B=14A 14C=14D 14D=14C 14E=14F 14F=14E 150=151 151=150 152=153 153=152 154=155 155=154 156=157
   157=156 158=159 159=158 15A=15B 15B=15A 15C=15D 15D=15C 15E=15F 15F=15E 160=161 161=160 162=163
   163=162 164=165 165=164 166=167 167=166 168=169 169=168 16A=16B 16B=16A 16C=16D 16D=16C 16E=16F
   16F=16E 170=171 171=170 172=173 173=172 174=175 175=174 176=177 177=176 178=FF 179=17A 17A=179
   17B=17C 17C=17B 17D=17E 17E=17D 17F=53,73 180=243 181=253 182=183 183=182 184=185 185=184
   186=254 187=188 188=187 189-18A=256 18B=18C 18C=18B 18E=1DD 18F=259 190=25B 191=192 192=191
   193=260 194=263 195=1F6 196=269 197=268 198=199 199=198 19A=23D 19B=A7DC 19C=26F 19D=272
   19E=220 19F=275 1A0=1A1 1A1=1A0 1A2=1A3 1A3=1A2 1A4=1A5 1A5=1A4 1A6=280 1A7=1A8 1A8=1A7 1A9=283
   1AC=1AD 1AD=1AC 1AE=288 1AF=1B0 1B0=1AF 1B1-1B2=28A 1B3=1B4 1B4=1B3 1B5=1B6 1B6=1B5 1B7=292
   1B8=1B9 1B9=1B8 1BC=1BD 1BD=1BC 1BF=1F7 1C4=1C5,1C6 1C5=1C4,1C6 1C6=1C4,1C5 1C7=1C8,1C9
   1C8=1C7,1C9 1C9=1C7,1C8 1CA=1CB,1CC 1CB=1CA,1CC 1CC=1CA,1CB 1CD=1CE 1CE=1CD 1CF=1D0 1D0=1CF
   1D1=1D2 1D2=1D1 1D3=1D4 1D4=1D3 1D5=1D6 1D6=1D5 1D7=1D8 1D8=1D7 1D9=1DA 1DA=1D9 1DB=1DC 1DC=1DB
   1DD=18E 1DE=1DF 1DF=1DE 1E0=1E1 1E1=1E0 1E2=1E3 1E3=1E2 1E4=1E5 1E5=1E4 1E6=1E7 1E7=1E6 1E8=1E9
   1E9=1E8 1EA=1EB 1EB=1EA 1EC=1ED 1ED=1EC 1EE=1EF 1EF=1EE 1F1=1F2,1F3 1F2=1F1,1F3 1F3=1F1,1F2
   1F4=1F5 1F5=1F4 1F6=195 1F7=1BF 1F8=1F9 1F9=1F8 1FA=1FB 1FB=1FA 1FC=1FD 1FD=1FC 1FE=1FF 1FF=1FE
   200=201 201=200 202=203 203=202 204=205 205=204 206=207 207=206 208=209 209=208 20A=20B 20B=20A
   20C=20D 20D=20C 20E=20F 20F=20E 210=211 211=210 212=213 213=212 214=215 215=214 216=217 217=216
   218=219 219=218 21A=21B 21B=21A 21C=21D 21D=21C 21E=21F 21F=21E 220=19E 222=223 223=222 224=225
   225=224 226=227 227=226 228=229 229=228 22A=22B 22B=22A 22C=22D 22D=22C 22E=22F 22F=22E 230=231
   231=230 232=233 233=232 23A=2C65 23B=23C 23C=23B 23D=19A 23E=2C66 23F-240=2C7E 241=242 242=241
   243=180 244=289 245=28C 246=247 247=246 248=249 249=248 24A=24B 24B=24A 24C=24D 24D=24C 24E=24F
   24F=24E 250=2C6F 251=2C6D 252=2C70 253=181 254=186 256-257=189 259=18F 25B=190 25C=A7AB 260=193
   261=A7AC 263=194 264=A7CB 265=A78D 266=A7AA 268=197 269=196 26A=A7AE 26B=2C62 26C=A7AD 26F=19C
   271=2C6E 272=19D 275=19F 27D=2C64 280=1A6 282=A7C5 283=1A9 287=A7B1 288=1AE 289=244 28A-28B=1B1
   28C=245 292=1B7 29D=A7B2 29E=A7B0 345=399,3B9,1FBE 370=371 371=370 372=373 373=372 376=377
   377=376 37B-37D=3FD 37F=3F3 386=3AC 388-38A=3AD 38C=3CC 38E-38F=3CD 390=1FD3 391=3B1
   392=3B2,3D0 393-394=3B3 395=3B5,3F5 396-397=3B6 398=3B8,3D1,3F4 399=345,3B9,1FBE 39A=3BA,3F0
   39B=3BB 39C=B5,3BC 39D-39F=3BD 3A0=3C0,3D6 3A1=3C1,3F1 3A3=3C2,3C3 3A4-3A5=3C4 3A6=3C6,3D5
   3A7-3A8=3C7 3A9=3C9,2126 3AA-3AB=3CA 3AC=386 3AD-3AF=388 3B0=1FE3 3B1=391 3B2=392,3D0
   3B3-3B4=393 3B5=395,3F5 3B6-3B7=396 3B8=398,3D1,3F4 3B9=345,399,1FBE 3BA=39A,3F0 3BB=39B
   3BC=B5,39C 3BD-3BF=39D 3C0=3A0,3D6 3C1=3A1,3F1 3C2=3A3,3C3 3C3=3A3,3C2 3C4-3C5=3A4 3C6=3A6,3D5
   3C7-3C8=3A7 3C9=3A9,2126 3CA-3CB=3AA 3CC=38C 3CD-3CE=38E 3CF=3D7 3D0=392,3B2 3D1=398,3B8,3F4
   3D5=3A6,3C6 3D6=3A0,3C0 3D7=3CF 3D8=3D9 3D9=3D8 3DA=3DB 3DB=3DA 3DC=3DD 3DD=3DC 3DE=3DF 3DF=3DE
   3E0=3E1 3E1=3E0 3E2=3E3 3E3=3E2 3E4=3E5 3E5=3E4 3E6=3E7 3E7=3E6 3E8=3E9 3E9=3E8 3EA=3EB 3EB=3EA
   3EC=3ED 3ED=3EC 3EE=3EF 3EF=3EE 3F0=39A,3BA 3F1=3A1,3C1 3F2=3F9 3F3=37F 3F4=398,3B8,3D1
   3F5=395,3B5 3F7=3F8 3F8=3F7 3F9=3F2 3FA=3FB 3FB=3FA 3FD-3FF=37B 400-40F=450 410-411=430
   412=432,1C80 413=433 414=434,1C81 415-41D=435 41E=43E,1C82 41F-420=43F 421=441,1C83
   422=442,1C84,1C85 423-429=443 42A=44A,1C86 42B-42F=44B 430-431=410 432=412,1C80 433=413
   434=414,1C81 435-43D=415 43E=41E,1C82 43F-440=41F 441=421,1C83 442=422,1C84,1C85 443-449=423
   44A=42A,1C86 44B-44F=42B 450-45F=400 460=461 461=460 462=463,1C87 463=462,1C87 464=465 465=464
   466=467 467=466 468=469 469=468 46A=46B 46B=46A 46C=46D 46D=46C 46E=46F 46F=46E 470=471 471=470
   472=473 473=472 474=475 475=474 476=477 477=476 478=479 479=478 47A=47B 47B=47A 47C=47D 47D=47C
   47E=47F 47F=47E 480=481 481=480 48A=48B 48B=48A 48C=48D 48D=48C 48E=48F 48F=48E 490=491 491=490
   492=493 493=492 494=495 495=494 496=497 497=496 498=499 499=498 49A=49B 49B=49A 49C=49D 49D=49C
   49E=49F 49F=49E 4A0=4A1 4A1=4A0 4A2=4A3 4A3=4A2 4A4=4A5 4A5=4A4 4A6=4A7 4A7=4A6 4A8=4A9 4A9=4A8
   4AA=4AB 4AB=4AA 4AC=4AD 4AD=4AC 4AE=4AF 4AF=4AE 4B0=4B1 4B1=4B0 4B2=4B3 4B3=4B2 4B4=4B5 4B5=4B4
   4B6=4B7 4B7=4B6 4B8=4B9 4B9=4B8 4BA=4BB 4BB=4BA 4BC=4BD 4BD=4BC 4BE=4BF 4BF=4BE 4C0=4CF 4C1=4C2
   4C2=4C1 4C3=4C4 4C4=4C3 4C5=4C6 4C6=4C5 4C7=4C8 4C8=4C7 4C9=4CA 4CA=4C9 4CB=4CC 4CC=4CB 4CD=4CE
   4CE=4CD 4CF=4C0 4D0=4D1 4D1=4D0 4D2=4D3 4D3=4D2 4D4=4D5 4D5=4D4 4D6=4D7 4D7=4D6 4D8=4D9 4D9=4D8
   4DA=4DB 4DB=4DA 4DC=4DD 4DD=4DC 4DE=4DF 4DF=4DE 4E0=4E1 4E1=4E0 4E2=4E3 4E3=4E2 4E4=4E5 4E5=4E4
   4E6=4E7 4E7=4E6 4E8=4E9 4E9=4E8 4EA=4EB 4EB=4EA 4EC=4ED 4ED=4EC 4EE=4EF 4EF=4EE 4F0=4F1 4F1=4F0
   4F2=4F3 4F3=4F2 4F4=4F5 4F5=4F4 4F6=4F7 4F7=4F6 4F8=4F9 4F9=4F8 4FA=4FB 4FB=4FA 4FC=4FD 4FD=4FC
   4FE=4FF 4FF=4FE 500=501 501=500 502=503 503=502 504=505 505=504 506=507 507=506 508=509 509=508
   50A=50B 50B=50A 50C=50D 50D=50C 50E=50F 50F=50E 510=511 511=510 512=513 513=512 514=515 515=514
   516=517 517=516 518=519 519=518 51A=51B 51B=51A 51C=51D 51D=51C 51E=51F 51F=51E 520=521 521=520
   522=523 523=522 524=525 525=524 526=527 527=526 528=529 529=528 52A=52B 52B=52A 52C=52D 52D=52C
   52E=52F 52F=52E 531-556=561 561-586=531 10A0-10C5=2D00 10C7=2D27 10CD=2D2D 10D0-10FA=1C90
   10FD-10FF=1CBD 13A0-13EF=AB70 13F0-13F5=13F8 13F8-13FD=13F0 1C80=412,432 1C81=414,434
   1C82=41E,43E 1C83=421,441 1C84=422,442,1C85 1C85=422,442,1C84 1C86=42A,44A 1C87=462,463
   1C88=A64A,A64B 1C89=1C8A 1C8A=1C89 1C90-1CBA=10D0 1CBD-1CBF=10FD 1D79=A77D 1D7D=2C63 1D8E=A7C6
   1E00=1E01 1E01=1E00 1E02=1E03 1E03=1E02 1E04=1E05 1E05=1E04 1E06=1E07 1E07=1E06 1E08=1E09
   1E09=1E08 1E0A=1E0B 1E0B=1E0A 1E0C=1E0D 1E0D=1E0C 1E0E=1E0F 1E0F=1E0E 1E10=1E11 1E11=1E10
   1E12=1E13 1E13=1E12 1E14=1E15 1E15=1E14 1E16=1E17 1E17=1E16 1E18=1E19 1E19=1E18 1E1A=1E1B
   1E1B=1E1A 1E1C=1E1D 1E1D=1E1C 1E1E=1E1F 1E1F=1E1E 1E20=1E21 1E21=1E20 1E22=1E23 1E23=1E22
   1E24=1E25 1E25=1E24 1E26=1E27 1E27=1E26 1E28=1E29 1E29=1E28 1E2A=1E2B 1E2B=1E2A 1E2C=1E2D
   1E2D=1E2C 1E2E=1E2F 1E2F=1E2E 1E30=1E31 1E31=1E30 1E32=1E33 1E33=1E32 1E34=1E35 1E35=1E34
   1E36=1E37 1E37=1E36 1E38=1E39 1E39=1E38 1E3A=1E3B 1E3B=1E3A 1E3C=1E3D 1E3D=1E3C 1E3E=1E3F
   1E3F=1E3E 1E40=1E41 1E41=1E40 1E42=1E43 1E43=1E42 1E44=1E45 1E45=1E44 1E46=1E47 1E47=1E46
   1E48=1E49 1E49=1E48 1E4A=1E4B 1E4B=1E4A 1E4C=1E4D 1E4D=1E4C 1E4E=1E4F 1E4F=1E4E 1E50=1E51
   1E51=1E50 1E52=1E53 1E53=1E52 1E54=1E55 1E55=1E54 1E56=1E57 1E57=1E56 1E58=1E59 1E59=1E58
   1E5A=1E5B 1E5B=1E5A 1E5C=1E5D 1E5D=1E5C 1E5E=1E5F 1E5F=1E5E 1E60=1E61,1E9B 1E61=1E60,1E9B
   1E62=1E63 1E63=1E62 1E64=1E65 1E65=1E64 1E66=1E67 1E67=1E66 1E68=1E69 1E69=1E68 1E6A=1E6B
   1E6B=1E6A 1E6C=1E6D 1E6D=1E6C 1E6E=1E6F 1E6F=1E6E 1E70=1E71 1E71=1E70 1E72=1E73 1E73=1E72
   1E74=1E75 1E75=1E74 1E76=1E77 1E77=1E76 1E78=1E79 1E79=1E78 1E7A=1E7B 1E7B=1E7A 1E7C=1E7D
   1E7D=1E7C 1E7E=1E7F 1E7F=1E7E 1E80=1E81 1E81=1E80 1E82=1E83 1E83=1E82 1E84=1E85 1E85=1E84
   1E86=1E87 1E87=1E86 1E88=1E89 1E89=1E88 1E8A=1E8B 1E8B=1E8A 1E8C=1E8D 1E8D=1E8C 1E8E=1E8F
   1E8F=1E8E 1E90=1E91 1E91=1E90 1E92=1E93 1E93=1E92 1E94=1E95 1E95=1E94 1E9B=1E60,1E61 1E9E=DF
   1EA0=1EA1 1EA1=1EA0 1EA2=1EA3 1EA3=1EA2 1EA4=1EA5 1EA5=1EA4 1EA6=1EA7 1EA7=1EA6 1EA8=1EA9
   1EA9=1EA8 1EAA=1EAB 1EAB=1EAA 1EAC=1EAD 1EAD=1EAC 1EAE=1EAF 1EAF=1EAE 1EB0=1EB1 1EB1=1EB0
   1EB2=1EB3 1EB3=1EB2 1EB4=1EB5 1EB5=1EB4 1EB6=1EB7 1EB7=1EB6 1EB8=1EB9 1EB9=1EB8 1EBA=1EBB
   1EBB=1EBA 1EBC=1EBD 1EBD=1EBC 1EBE=1EBF 1EBF=1EBE 1EC0=1EC1 1EC1=1EC0 1EC2=1EC3 1EC3=1EC2
   1EC4=1EC5 1EC5=1EC4 1EC6=1EC7 1EC7=1EC6 1EC8=1EC9 1EC9=1EC8 1ECA=1ECB 1ECB=1ECA 1ECC=1ECD
   1ECD=1ECC 1ECE=1ECF 1ECF=1ECE 1ED0=1ED1 1ED1=1ED0 1ED2=1ED3 1ED3=1ED2 1ED4=1ED5 1ED5=1ED4
   1ED6=1ED7 1ED7=1ED6 1ED8=1ED9 1ED9=1ED8 1EDA=1EDB 1EDB=1EDA 1EDC=1EDD 1EDD=1EDC 1EDE=1EDF
   1EDF=1EDE 1EE0=1EE1 1EE1=1EE0 1EE2=1EE3 1EE3=1EE2 1EE4=1EE5 1EE5=1EE4 1EE6=1EE7 1EE7=1EE6
   1EE8=1EE9 1EE9=1EE8 1EEA=1EEB 1EEB=1EEA 1EEC=1EED 1EED=1EEC 1EEE=1EEF 1EEF=1EEE 1EF0=1EF1
   1EF1=1EF0 1EF2=1EF3 1EF3=1EF2 1EF4=1EF5 1EF5=1EF4 1EF6=1EF7 1EF7=1EF6 1EF8=1EF9 1EF9=1EF8
   1EFA=1EFB 1EFB=1EFA 1EFC=1EFD 1EFD=1EFC 1EFE=1EFF 1EFF=1EFE 1F00-1F07=1F08 1F08-1F0F=1F00
   1F10-1F15=1F18 1F18-1F1D=1F10 1F20-1F27=1F28 1F28-1F2F=1F20 1F30-1F37=1F38 1F38-1F3F=1F30
   1F40-1F45=1F48 1F48-1F4D=1F40 1F51/1F57=1F59 1F59/1F5F=1F51 1F60-1F67=1F68 1F68-1F6F=1F60
   1F70-1F71=1FBA 1F72-1F75=1FC8 1F76-1F77=1FDA 1F78-1F79=1FF8 1F7A-1F7B=1FEA 1F7C-1F7D=1FFA
   1F80-1F87=1F88 1F88-1F8F=1F80 1F90-1F97=1F98 1F98-1F9F=1F90 1FA0-1FA7=1FA8 1FA8-1FAF=1FA0
   1FB0-1FB1=1FB8 1FB3=1FBC 1FB8-1FB9=1FB0 1FBA-1FBB=1F70 1FBC=1FB3 1FBE=345,399,3B9 1FC3=1FCC
   1FC8-1FCB=1F72 1FCC=1FC3 1FD0-1FD1=1FD8 1FD3=390 1FD8-1FD9=1FD0 1FDA-1FDB=1F76 1FE0-1FE1=1FE8
   1FE3=3B0 1FE5=1FEC 1FE8-1FE9=1FE0 1FEA-1FEB=1F7A 1FEC=1FE5 1FF3=1FFC 1FF8-1FF9=1F78
   1FFA-1FFB=1F7C 1FFC=1FF3 2126=3A9,3C9 212A=4B,6B 212B=C5,E5 2132=214E 214E=2132 2160-216F=2170
   2170-217F=2160 2183=2184 2184=2183 24B6-24CF=24D0 24D0-24E9=24B6 2C00-2C2F=2C30 2C30-2C5F=2C00
   2C60=2C61 2C61=2C60 2C62=26B 2C63=1D7D 2C64=27D 2C65=23A 2C66=23E 2C67=2C68 2C68=2C67 2C69=2C6A
   2C6A=2C69 2C6B=2C6C 2C6C=2C6B 2C6D=251 2C6E=271 2C6F=250 2C70=252 2C72=2C73 2C73=2C72 2C75=2C76
   2C76=2C75 2C7E-2C7F=23F 2C80=2C81 2C81=2C80 2C82=2C83 2C83=2C82 2C84=2C85 2C85=2C84 2C86=2C87
   2C87=2C86 2C88=2C89 2C89=2C88 2C8A=2C8B 2C8B=2C8A 2C8C=2C8D 2C8D=2C8C 2C8E=2C8F 2C8F=2C8E
   2C90=2C91 2C91=2C90 2C92=2C93 2C93=2C92 2C94=2C95 2C95=2C94 2C96=2C97 2C97=2C96 2C98=2C99
   2C99=2C98 2C9A=2C9B 2C9B=2C9A 2C9C=2C9D 2C9D=2C9C 2C9E=2C9F 2C9F=2C9E 2CA0=2CA1 2CA1=2CA0
   2CA2=2CA3 2CA3=2CA2 2CA4=2CA5 2CA5=2CA4 2CA6=2CA7 2CA7=2CA6 2CA8=2CA9 2CA9=2CA8 2CAA=2CAB
   2CAB=2CAA 2CAC=2CAD 2CAD=2CAC 2CAE=2CAF 2CAF=2CAE 2CB0=2CB1 2CB1=2CB0 2CB2=2CB3 2CB3=2CB2
   2CB4=2CB5 2CB5=2CB4 2CB6=2CB7 2CB7=2CB6 2CB8=2CB9 2CB9=2CB8 2CBA=2CBB 2CBB=2CBA 2CBC=2CBD
   2CBD=2CBC 2CBE=2CBF 2CBF=2CBE 2CC0=2CC1 2CC1=2CC0 2CC2=2CC3 2CC3=2CC2 2CC4=2CC5 2CC5=2CC4
   2CC6=2CC7 2CC7=2CC6 2CC8=2CC9 2CC9=2CC8 2CCA=2CCB 2CCB=2CCA 2CCC=2CCD 2CCD=2CCC 2CCE=2CCF
   2CCF=2CCE 2CD0=2CD1 2CD1=2CD0 2CD2=2CD3 2CD3=2CD2 2CD4=2CD5 2CD5=2CD4 2CD6=2CD7 2CD7=2CD6
   2CD8=2CD9 2CD9=2CD8 2CDA=2CDB 2CDB=2CDA 2CDC=2CDD 2CDD=2CDC 2CDE=2CDF 2CDF=2CDE 2CE0=2CE1
   2CE1=2CE0 2CE2=2CE3 2CE3=2CE2 2CEB=2CEC 2CEC=2CEB 2CED=2CEE 2CEE=2CED 2CF2=2CF3 2CF3=2CF2
   2D00-2D25=10A0 2D27=10C7 2D2D=10CD A640=A641 A641=A640 A642=A643 A643=A642 A644=A645 A645=A644
   A646=A647 A647=A646 A648=A649 A649=A648 A64A=1C88,A64B A64B=1C88,A64A A64C=A64D A64D=A64C
   A64E=A64F A64F=A64E A650=A651 A651=A650 A652=A653 A653=A652 A654=A655 A655=A654 A656=A657
   A657=A656 A658=A659 A659=A658 A65A=A65B A65B=A65A A65C=A65D A65D=A65C A65E=A65F A65F=A65E
   A660=A661 A661=A660 A662=A663 A663=A662 A664=A665 A665=A664 A666=A667 A667=A666 A668=A669
   A669=A668 A66A=A66B A66B=A66A A66C=A66D A66D=A66C A680=A681 A681=A680 A682=A683 A683=A682
   A684=A685 A685=A684 A686=A687 A687=A686 A688=A689 A689=A688 A68A=A68B A68B=A68A A68C=A68D
   A68D=A68C A68E=A68F A68F=A68E A690=A691 A691=A690 A692=A693 A693=A692 A694=A695 A695=A694
   A696=A697 A697=A696 A698=A699 A699=A698 A69A=A69B A69B=A69A A722=A723 A723=A722 A724=A725
   A725=A724 A726=A727 A727=A726 A728=A729 A729=A728 A72A=A72B A72B=A72A A72C=A72D A72D=A72C
   A72E=A72F A72F=A72E A732=A733 A733=A732 A734=A735 A735=A734 A736=A737 A737=A736 A738=A739
   A739=A738 A73A=A73B A73B=A73A A73C=A73D A73D=A73C A73E=A73F A73F=A73E A740=A741 A741=A740
   A742=A743 A743=A742 A744=A745 A745=A744 A746=A747 A747=A746 A748=A749 A749=A748 A74A=A74B
   A74B=A74A A74C=A74D A74D=A74C A74E=A74F A74F=A74E A750=A751 A751=A750 A752=A753 A753=A752
   A754=A755 A755=A754 A756=A757 A757=A756 A758=A759 A759=A758 A75A=A75B A75B=A75A A75C=A75D
   A75D=A75C A75E=A75F A75F=A75E A760=A761 A761=A760 A762=A763 A763=A762 A764=A765 A765=A764
   A766=A767 A767=A766 A768=A769 A769=A768 A76A=A76B A76B=A76A A76C=A76D A76D=A76C A76E=A76F
   A76F=A76E A779=A77A A77A=A779 A77B=A77C A77C=A77B A77D=1D79 A77E=A77F A77F=A77E A780=A781
   A781=A780 A782=A783 A783=A782 A784=A785 A785=A784 A786=A787 A787=A786 A78B=A78C A78C=A78B
   A78D=265 A790=A791 A791=A790 A792=A793 A793=A792 A794=A7C4 A796=A797 A797=A796 A798=A799
   A799=A798 A79A=A79B A79B=A79A A79C=A79D A79D=A79C A79E=A79F A79F=A79E A7A0=A7A1 A7A1=A7A0
   A7A2=A7A3 A7A3=A7A2 A7A4=A7A5 A7A5=A7A4 A7A6=A7A7 A7A7=A7A6 A7A8=A7A9 A7A9=A7A8 A7AA=266
   A7AB=25C A7AC=261 A7AD=26C A7AE=26A A7B0=29E A7B1=287 A7B2=29D A7B3=AB53 A7B4=A7B5 A7B5=A7B4
   A7B6=A7B7 A7B7=A7B6 A7B8=A7B9 A7B9=A7B8 A7BA=A7BB A7BB=A7BA A7BC=A7BD A7BD=A7BC A7BE=A7BF
   A7BF=A7BE A7C0=A7C1 A7C1=A7C0 A7C2=A7C3 A7C3=A7C2 A7C4=A794 A7C5=282 A7C6=1D8E A7C7=A7C8
   A7C8=A7C7 A7C9=A7CA A7CA=A7C9 A7CB=264 A7CC=A7CD A7CD=A7CC A7D0=A7D1 A7D1=A7D0 A7D6=A7D7
   A7D7=A7D6 A7D8=A7D9 A7D9=A7D8 A7DA=A7DB A7DB=A7DA A7DC=19B A7F5=A7F6 A7F6=A7F5 AB53=A7B3
   AB70-ABBF=13A0 FB05=FB06 FB06=FB05 FF21-FF3A=FF41 FF41-FF5A=FF21 10400-10427=10428
   10428-1044F=10400 104B0-104D3=104D8 104D8-104FB=104B0 10570-1057A=10597 1057C-1058A=105A3
   1058C-10592=105B3 10594-10595=105BB 10597-105A1=10570 105A3-105B1=1057C 105B3-105B9=1058C
   105BB-105BC=10594 10C80-10CB2=10CC0 10CC0-10CF2=10C80 10D50-10D65=10D70 10D70-10D85=10D50
   118A0-118BF=118C0 118C0-118DF=118A0 16E40-16E5F=16E60 16E60-16E7F=16E40 1E900-1E921=1E922
   1E922-1E943=1E900"

/-- The other characters that differ from `c` in case only. -/
def caseVariants (c : Char) : List Char := (mapped? caseFolding c).getD []

end Recipients.Unicode
