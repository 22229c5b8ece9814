import CaseMatch.Unicode.Table

/-!
The edition of the standard, up to the sixteenth, in which each code point was first assigned.
-/

namespace CaseMatch.Unicode

/-- Where each run of code points of one edition starts, with the number of the edition, counted
from one; zero is the number of code points not assigned. -/
def ages : Partition := Partition.ofText
  "0:1 1F6:4 1FA:1 218:4 220:6 221:7 222:4 234:7 237:8 242:9 250:1 2A9:4 2AE:7 2B0:1 2DF:4 2E0:1
  2EA:4 2EF:7 300:1 346:4 34F:6 350:7 358:8 35D:7 360:1 362:4 363:6 370:10 374:1 376:10 378:0
  37A:1 37B:9 37E:1 37F:16 380:0 384:1 38B:0 38C:1 38D:0 38E:1 3A2:0 3A3:1 3CF:10 3D0:1 3D7:4
  3D8:6 3DA:1 3DB:4 3DC:1 3DD:4 3DE:1 3DF:4 3E0:1 3E1:4 3E2:1 3F4:5 3F6:6 3F7:7 3FC:8 400:4
  401:1 40D:4 40E:1 450:4 451:1 45D:4 45E:1 487:10 488:4 48A:6 48C:4 490:1 4C5:6 4C7:1 4C9:6
  4CB:1 4CD:6 4CF:9 4D0:1 4EC:4 4EE:1 4F6:8 4F8:1 4FA:9 500:6 510:9 514:10 524:11 526:12 528:16
  530:0 531:1 557:0 559:1 560:20 561:1 588:20 589:1 58A:4 58B:0 58D:16 58F:13 590:0 591:2 5A2:8
  5A3:2 5B0:1 5BA:9 5BB:1 5C4:2 5C5:8 5C8:0 5D0:1 5EB:0 5EF:20 5F0:1 5F5:0 600:7 604:13 605:16
  606:10 60B:8 60C:1 60D:7 616:10 61B:1 61C:15 61D:24 61E:8 61F:1 620:12 621:1 63B:10 640:1
  653:4 656:7 659:8 65F:12 660:1 66E:6 670:1 6B8:4 6BA:1 6BF:4 6C0:1 6CF:4 6D0:1 6EE:7 6F0:1
  6FA:4 6FF:7 700:4 70E:0 70F:4 72D:7 730:4 74B:0 74D:7 750:8 76E:10 780:4 7B1:6 7B2:0 7C0:9
  7FB:0 7FD:20 800:11 82E:0 830:11 83F:0 840:12 85C:0 85E:12 85F:0 860:19 86B:0 870:24 88F:0
  890:24 892:0 897:27 898:24 8A0:13 8A1:16 8A2:13 8AD:16 8B3:17 8B5:24 8B6:18 8BE:23 8C8:24
  8D3:20 8D4:18 8E3:17 8E4:13 8FF:16 900:11 901:1 904:7 905:1 93A:12 93C:1 94E:11 94F:12 950:1
  955:11 956:12 958:1 971:10 973:12 978:16 979:11 97B:9 97D:8 97E:9 980:16 981:1 984:0 985:1
  98D:0 98F:1 991:0 993:1 9A9:0 9AA:1 9B1:0 9B2:1 9B3:0 9B6:1 9BA:0 9BC:1 9BD:7 9BE:1 9C5:0
  9C7:1 9C9:0 9CB:1 9CE:8 9CF:0 9D7:1 9D8:0 9DC:1 9DE:0 9DF:1 9E4:0 9E6:1 9FB:11 9FC:19 9FE:20
  9FF:0 A01:7 A02:1 A03:7 A04:0 A05:1 A0B:0 A0F:1 A11:0 A13:1 A29:0 A2A:1 A31:0 A32:1 A34:0
  A35:1 A37:0 A38:1 A3A:0 A3C:1 A3D:0 A3E:1 A43:0 A47:1 A49:0 A4B:1 A4E:0 A51:10 A52:0 A59:1
  A5D:0 A5E:1 A5F:0 A66:1 A75:10 A76:20 A77:0 A81:1 A84:0 A85:1 A8C:7 A8D:1 A8E:0 A8F:1 A92:0
  A93:1 AA9:0 AAA:1 AB1:0 AB2:1 AB4:0 AB5:1 ABA:0 ABC:1 AC6:0 AC7:1 ACA:0 ACB:1 ACE:0 AD0:1
  AD1:0 AE0:1 AE1:7 AE4:0 AE6:1 AF0:13 AF1:7 AF2:0 AF9:17 AFA:19 B00:0 B01:1 B04:0 B05:1 B0D:0
  B0F:1 B11:0 B13:1 B29:0 B2A:1 B31:0 B32:1 B34:0 B35:7 B36:1 B3A:0 B3C:1 B44:10 B45:0 B47:1
  B49:0 B4B:1 B4E:0 B55:23 B56:1 B58:0 B5C:1 B5E:0 B5F:1 B62:10 B64:0 B66:1 B71:7 B72:12 B78:0
  B82:1 B84:0 B85:1 B8B:0 B8E:1 B91:0 B92:1 B96:0 B99:1 B9B:0 B9C:1 B9D:0 B9E:1 BA0:0 BA3:1
  BA5:0 BA8:1 BAB:0 BAE:1 BB6:8 BB7:1 BBA:0 BBE:1 BC3:0 BC6:1 BC9:0 BCA:1 BCE:0 BD0:10 BD1:0
  BD7:1 BD8:0 BE6:8 BE7:1 BF3:7 BFB:0 C00:16 C01:1 C04:20 C05:1 C0D:0 C0E:1 C11:0 C12:1 C29:0
  C2A:1 C34:16 C35:1 C3A:0 C3C:24 C3D:10 C3E:1 C45:0 C46:1 C49:0 C4A:1 C4E:0 C55:1 C57:0 C58:10
  C5A:17 C5B:0 C5D:24 C5E:0 C60:1 C62:10 C64:0 C66:1 C70:0 C77:21 C78:10 C80:18 C81:16 C82:1
  C84:20 C85:1 C8D:0 C8E:1 C91:0 C92:1 CA9:0 CAA:1 CB4:0 CB5:1 CBA:0 CBC:7 CBE:1 CC5:0 CC6:1
  CC9:0 CCA:1 CCE:0 CD5:1 CD7:0 CDD:24 CDE:1 CDF:0 CE0:1 CE2:9 CE4:0 CE6:1 CF0:0 CF1:9 CF3:25
  CF4:0 D00:19 D01:16 D02:1 D04:23 D05:1 D0D:0 D0E:1 D11:0 D12:1 D29:12 D2A:1 D3A:12 D3B:19
  D3D:10 D3E:1 D44:10 D45:0 D46:1 D49:0 D4A:1 D4E:12 D4F:18 D50:0 D54:18 D57:1 D58:18 D5F:17
  D60:1 D62:10 D64:0 D66:1 D70:10 D76:18 D79:10 D80:0 D81:23 D82:4 D84:0 D85:4 D97:0 D9A:4 DB2:0
  DB3:4 DBC:0 DBD:4 DBE:0 DC0:4 DC7:0 DCA:4 DCB:0 DCF:4 DD5:0 DD6:4 DD7:0 DD8:4 DE0:0 DE6:16
  DF0:0 DF2:4 DF5:0 E01:1 E3B:0 E3F:1 E5C:0 E81:1 E83:0 E84:1 E85:0 E86:21 E87:1 E89:21 E8A:1
  E8B:0 E8C:21 E8D:1 E8E:21 E94:1 E98:21 E99:1 EA0:21 EA1:1 EA4:0 EA5:1 EA6:0 EA7:1 EA8:21 EAA:1
  EAC:21 EAD:1 EBA:21 EBB:1 EBE:0 EC0:1 EC5:0 EC6:1 EC7:0 EC8:1 ECE:25 ECF:0 ED0:1 EDA:0 EDC:1
  EDE:13 EE0:0 F00:2 F48:0 F49:2 F6A:4 F6B:10 F6D:0 F71:2 F8C:12 F90:2 F96:4 F97:2 F98:0 F99:2
  FAE:4 FB1:2 FB8:4 FB9:2 FBA:4 FBD:0 FBE:4 FCD:0 FCE:10 FCF:4 FD0:8 FD2:10 FD5:11 FD9:12 FDB:0
  1000:4 1022:10 1023:4 1028:10 1029:4 102B:10 102C:4 1033:10 1036:4 103A:10 1040:4 105A:10
  109A:11 109E:10 10A0:1 10C6:0 10C7:13 10C8:0 10CD:13 10CE:0 10D0:1 10F7:6 10F9:8 10FB:1 10FC:8
  10FD:13 1100:1 115A:11 115F:1 11A3:11 11A8:1 11FA:11 1200:4 1207:8 1208:4 1247:8 1248:4 1249:0
  124A:4 124E:0 1250:4 1257:0 1258:4 1259:0 125A:4 125E:0 1260:4 1287:8 1288:4 1289:0 128A:4
  128E:0 1290:4 12AF:8 12B0:4 12B1:0 12B2:4 12B6:0 12B8:4 12BF:0 12C0:4 12C1:0 12C2:4 12C6:0
  12C8:4 12CF:8 12D0:4 12D7:0 12D8:4 12EF:8 12F0:4 130F:8 1310:4 1311:0 1312:4 1316:0 1318:4
  131F:8 1320:4 1347:8 1348:4 135B:0 135D:12 135F:8 1361:4 137D:0 1380:8 139A:0 13A0:4 13F5:17
  13F6:0 13F8:17 13FE:0 1400:11 1401:4 1677:11 1680:4 169D:0 16A0:4 16F1:16 16F9:0 1700:6
  170D:24 170E:6 1715:24 1716:0 171F:24 1720:6 1737:0 1740:6 1754:0 1760:6 176D:0 176E:6 1771:0
  1772:6 1774:0 1780:4 17DD:7 17DE:0 17E0:4 17EA:0 17F0:7 17FA:0 1800:4 180F:24 1810:4 181A:0
  1820:4 1878:20 1879:0 1880:4 18AA:10 18AB:0 18B0:11 18F6:0 1900:7 191D:16 191F:0 1920:7 192C:0
  1930:7 193C:0 1940:7 1941:0 1944:7 196E:0 1970:7 1975:0 1980:8 19AA:11 19AC:0 19B0:8 19CA:0
  19D0:8 19DA:11 19DB:0 19DE:8 19E0:7 1A00:8 1A1C:0 1A1E:8 1A20:11 1A5F:0 1A60:11 1A7D:0 1A7F:11
  1A8A:0 1A90:11 1A9A:0 1AA0:11 1AAE:0 1AB0:16 1ABF:23 1AC1:24 1ACF:0 1B00:9 1B4C:24 1B4D:0
  1B4E:27 1B50:9 1B7D:24 1B7F:27 1B80:10 1BAB:13 1BAE:10 1BBA:13 1BC0:12 1BF4:0 1BFC:12 1C00:10
  1C38:0 1C3B:10 1C4A:0 1C4D:10 1C80:18 1C89:27 1C8B:0 1C90:20 1CBB:0 1CBD:20 1CC0:13 1CC8:0
  1CD0:11 1CF3:13 1CF7:19 1CF8:16 1CFA:21 1CFB:0 1D00:7 1D6C:8 1DC4:9 1DCB:10 1DE7:16 1DF6:19
  1DFA:24 1DFB:18 1DFC:12 1DFD:11 1DFE:9 1E00:1 1E9B:2 1E9C:10 1EA0:1 1EFA:10 1F00:1 1F16:0
  1F18:1 1F1E:0 1F20:1 1F46:0 1F48:1 1F4E:0 1F50:1 1F58:0 1F59:1 1F5A:0 1F5B:1 1F5C:0 1F5D:1
  1F5E:0 1F5F:1 1F7E:0 1F80:1 1FB5:0 1FB6:1 1FC5:0 1FC6:1 1FD4:0 1FD6:1 1FDC:0 1FDD:1 1FF0:0
  1FF2:1 1FF5:0 1FF6:1 1FFF:0 2000:1 202F:4 2030:1 2047:6 2048:4 204E:6 2053:7 2055:8 2057:6
  2058:8 205F:6 2064:10 2065:0 2066:15 206A:1 2071:6 2072:0 2074:1 208F:0 2090:8 2095:12 209D:0
  20A0:1 20AB:2 20AC:3 20AD:4 20B0:6 20B2:8 20B6:11 20B9:12 20BA:14 20BB:16 20BE:17 20BF:19
  20C0:24 20C1:0 20D0:1 20E2:4 20E4:6 20EB:8 20EC:9 20F0:10 20F1:0 2100:1 2139:4 213B:7 213C:8
  213D:6 214C:8 214D:9 214F:10 2150:11 2153:1 2183:4 2184:9 2185:10 2189:11 218A:17 218C:0
  2190:1 21EB:4 21F4:6 2200:1 22F2:6 2300:1 2301:4 2302:1 237B:4 237C:6 237D:4 239B:6 23CF:7
  23D1:8 23DC:9 23E8:11 23E9:12 23F4:16 23FB:18 23FF:19 2400:1 2425:4 2427:27 242A:0 2440:1
  244B:0 2460:1 24EB:6 24FF:7 2500:1 2596:6 25A0:1 25F0:4 25F8:6 2600:1 2614:7 2616:6 2618:8
  2619:4 261A:1 2670:4 2672:6 267E:8 2680:6 268A:7 2692:8 269D:10 269E:11 26A0:7 26A2:8 26B2:9
  26B3:10 26BD:11 26C0:10 26C4:11 26CE:12 26CF:11 26E2:12 26E3:11 26E4:12 26E8:11 2700:16 2701:1
  2705:12 2706:1 270A:12 270C:1 2728:12 2729:1 274C:12 274D:1 274E:12 274F:1 2753:12 2756:1
  2757:11 2758:1 275F:12 2761:1 2768:6 2776:1 2795:12 2798:1 27B0:12 27B1:1 27BF:12 27C0:8
  27C7:9 27CB:13 27CC:10 27CD:13 27CE:12 27D0:6 27EC:10 27F0:6 2800:4 2900:6 2B00:7 2B0E:8
  2B14:9 2B1B:10 2B20:9 2B24:10 2B4D:16 2B50:10 2B55:11 2B5A:16 2B74:0 2B76:16 2B96:0 2B97:23
  2B98:16 2BBA:20 2BBD:16 2BC9:21 2BCA:16 2BD2:19 2BD3:20 2BEC:17 2BF0:20 2BFF:21 2C00:8 2C2F:24
  2C30:8 2C5F:24 2C60:9 2C6D:10 2C70:11 2C71:10 2C74:9 2C78:10 2C7E:11 2C80:8 2CEB:11 2CF2:13
  2CF4:0 2CF9:8 2D26:0 2D27:13 2D28:0 2D2D:13 2D2E:0 2D30:8 2D66:13 2D68:0 2D6F:8 2D70:12 2D71:0
  2D7F:12 2D80:8 2D97:0 2DA0:8 2DA7:0 2DA8:8 2DAF:0 2DB0:8 2DB7:0 2DB8:8 2DBF:0 2DC0:8 2DC7:0
  2DC8:8 2DCF:0 2DD0:8 2DD7:0 2DD8:8 2DDF:0 2DE0:10 2E00:8 2E18:10 2E1C:8 2E1E:10 2E31:11
  2E32:13 2E3C:16 2E43:18 2E45:19 2E4A:20 2E4F:21 2E50:23 2E53:24 2E5E:0 2E80:4 2E9A:0 2E9B:4
  2EF4:0 2F00:4 2FD6:0 2FF0:4 2FFC:26 3000:1 3038:4 303B:6 303E:4 303F:1 3040:0 3041:1 3095:6
  3097:0 3099:1 309F:6 30A1:1 30FF:6 3100:0 3105:1 312D:10 312E:19 312F:20 3130:0 3131:1 318F:0
  3190:1 31A0:4 31B8:12 31BB:23 31C0:8 31D0:10 31E4:27 31E6:0 31EF:26 31F0:6 3200:1 321D:7
  321F:0 3220:1 3244:11 3250:7 3251:6 3260:1 327C:7 327E:8 327F:1 32B1:6 32C0:1 32CC:7 32D0:1
  32FF:22 3300:1 3377:7 337B:1 33DE:7 33E0:1 33FF:7 3400:4 4DB6:23 4DC0:7 4E00:1 9FA6:8 9FBC:10
  9FC4:11 9FCC:13 9FCD:17 9FD6:19 9FEB:20 9FF0:23 9FFD:24 A000:4 A48D:0 A490:4 A4A2:6 A4A4:4
  A4B4:6 A4B5:4 A4C1:6 A4C2:4 A4C5:6 A4C6:4 A4C7:0 A4D0:11 A500:10 A62C:0 A640:10 A660:12
  A662:10 A674:13 A67C:10 A698:16 A69E:17 A69F:13 A6A0:11 A6F8:0 A700:8 A717:9 A71B:10 A720:9
  A722:10 A78D:12 A78F:17 A790:12 A792:13 A794:16 A7A0:12 A7AA:13 A7AB:16 A7AE:18 A7AF:20
  A7B0:16 A7B2:17 A7B8:20 A7BA:21 A7C0:24 A7C2:21 A7C7:23 A7CB:27 A7CE:0 A7D0:24 A7D2:0 A7D3:24
  A7D4:0 A7D5:24 A7DA:27 A7DD:0 A7F2:24 A7F5:23 A7F7:16 A7F8:13 A7FA:12 A7FB:10 A800:8 A82C:23
  A82D:0 A830:11 A83A:0 A840:9 A878:0 A880:10 A8C5:18 A8C6:0 A8CE:10 A8DA:0 A8E0:11 A8FC:17
  A8FE:20 A900:10 A954:0 A95F:10 A960:11 A97D:0 A980:11 A9CE:0 A9CF:11 A9DA:0 A9DE:11 A9E0:16
  A9FF:0 AA00:10 AA37:0 AA40:10 AA4E:0 AA50:10 AA5A:0 AA5C:10 AA60:11 AA7C:16 AA80:11 AAC3:0
  AADB:11 AAE0:13 AAF7:0 AB01:12 AB07:0 AB09:12 AB0F:0 AB11:12 AB17:0 AB20:12 AB27:0 AB28:12
  AB2F:0 AB30:16 AB60:17 AB64:16 AB66:21 AB68:23 AB6C:0 AB70:17 ABC0:11 ABEE:0 ABF0:11 ABFA:0
  AC00:2 D7A4:0 D7B0:11 D7C7:0 D7CB:11 D7FC:0 D800:2 E000:1 FA2E:13 FA30:6 FA6B:11 FA6E:0 FA70:8
  FADA:0 FB00:1 FB07:0 FB13:1 FB18:0 FB1D:4 FB1E:1 FB37:0 FB38:1 FB3D:0 FB3E:1 FB3F:0 FB40:1
  FB42:0 FB43:1 FB45:0 FB46:1 FBB2:12 FBC2:24 FBC3:0 FBD3:1 FD40:24 FD50:1 FD90:0 FD92:1 FDC8:0
  FDCF:24 FDD0:5 FDF0:1 FDFC:6 FDFD:7 FDFE:24 FE00:6 FE10:8 FE1A:0 FE20:1 FE24:10 FE27:16
  FE2E:17 FE30:1 FE45:6 FE47:7 FE49:1 FE53:0 FE54:1 FE67:0 FE68:1 FE6C:0 FE70:1 FE73:6 FE74:1
  FE75:0 FE76:1 FEFD:0 FEFF:1 FF00:0 FF01:1 FF5F:6 FF61:1 FFBF:0 FFC2:1 FFC8:0 FFCA:1 FFD0:0
  FFD2:1 FFD8:0 FFDA:1 FFDD:0 FFE0:1 FFE7:0 FFE8:1 FFEF:0 FFF9:4 FFFC:3 FFFD:1 10000:7 1000C:0
  1000D:7 10027:0 10028:7 1003B:0 1003C:7 1003E:0 1003F:7 1004E:0 10050:7 1005E:0 10080:7
  100FB:0 10100:7 10103:0 10107:7 10134:0 10137:7 10140:8 1018B:16 1018D:18 1018F:0 10190:10
  1019C:23 1019D:0 101A0:16 101A1:0 101D0:10 101FE:0 10280:10 1029D:0 102A0:10 102D1:0 102E0:16
  102FC:0 10300:5 1031F:16 10320:5 10324:0 1032D:19 10330:5 1034B:0 10350:16 1037B:0 10380:7
  1039E:0 1039F:7 103A0:8 103C4:0 103C8:8 103D6:0 10400:5 10426:7 10428:5 1044E:7 1049E:0
  104A0:7 104AA:0 104B0:18 104D4:0 104D8:18 104FC:0 10500:16 10528:0 10530:16 10564:0 1056F:16
  10570:24 1057B:0 1057C:24 1058B:0 1058C:24 10593:0 10594:24 10596:0 10597:24 105A2:0 105A3:24
  105B2:0 105B3:24 105BA:0 105BB:24 105BD:0 105C0:27 105F4:0 10600:16 10737:0 10740:16 10756:0
  10760:16 10768:0 10780:24 10786:0 10787:24 107B1:0 107B2:24 107BB:0 10800:7 10806:0 10808:7
  10809:0 1080A:7 10836:0 10837:7 10839:0 1083C:7 1083D:0 1083F:7 10840:11 10856:0 10857:11
  10860:16 1089F:0 108A7:16 108B0:0 108E0:17 108F3:0 108F4:17 108F6:0 108FB:17 10900:9 1091A:11
  1091C:0 1091F:9 10920:10 1093A:0 1093F:10 10940:0 10980:13 109B8:0 109BC:17 109BE:13 109C0:17
  109D0:0 109D2:17 10A00:8 10A04:0 10A05:8 10A07:0 10A0C:8 10A14:0 10A15:8 10A18:0 10A19:8
  10A34:20 10A36:0 10A38:8 10A3B:0 10A3F:8 10A48:20 10A49:0 10A50:8 10A59:0 10A60:11 10A80:16
  10AA0:0 10AC0:16 10AE7:0 10AEB:16 10AF7:0 10B00:11 10B36:0 10B39:11 10B56:0 10B58:11 10B73:0
  10B78:11 10B80:16 10B92:0 10B99:16 10B9D:0 10BA9:16 10BB0:0 10C00:11 10C49:0 10C80:17 10CB3:0
  10CC0:17 10CF3:0 10CFA:17 10D00:20 10D28:0 10D30:20 10D3A:0 10D40:27 10D66:0 10D69:27 10D86:0
  10D8E:27 10D90:0 10E60:11 10E7F:0 10E80:23 10EAA:0 10EAB:23 10EAE:0 10EB0:23 10EB2:0 10EC2:27
  10EC5:0 10EFC:27 10EFD:25 10F00:20 10F28:0 10F30:20 10F5A:0 10F70:24 10F8A:0 10FB0:23 10FCC:0
  10FE0:21 10FF7:0 11000:12 1104E:0 11052:12 11070:24 11076:0 1107F:16 11080:11 110C2:24 110C3:0
  110CD:20 110CE:0 110D0:13 110E9:0 110F0:13 110FA:0 11100:13 11135:0 11136:13 11144:20 11147:23
  11148:0 11150:16 11177:0 11180:13 111C9:17 111CD:16 111CE:23 111D0:13 111DA:16 111DB:17
  111E0:0 111E1:16 111F5:0 11200:16 11212:0 11213:16 1123E:18 1123F:25 11242:0 11280:17 11287:0
  11288:17 11289:0 1128A:17 1128E:0 1128F:17 1129E:0 1129F:17 112AA:0 112B0:16 112EB:0 112F0:16
  112FA:0 11300:17 11301:16 11304:0 11305:16 1130D:0 1130F:16 11311:0 11313:16 11329:0 1132A:16
  11331:0 11332:16 11334:0 11335:16 1133A:0 1133B:20 1133C:16 11345:0 11347:16 11349:0 1134B:16
  1134E:0 11350:17 11351:0 11357:16 11358:0 1135D:16 11364:0 11366:16 1136D:0 11370:16 11375:0
  11380:27 1138A:0 1138B:27 1138C:0 1138E:27 1138F:0 11390:27 113B6:0 113B7:27 113C1:0 113C2:27
  113C3:0 113C5:27 113C6:0 113C7:27 113CB:0 113CC:27 113D6:0 113D7:27 113D9:0 113E1:27 113E3:0
  11400:18 1145A:23 1145B:18 1145C:0 1145D:18 1145E:20 1145F:21 11460:23 11462:0 11480:16
  114C8:0 114D0:16 114DA:0 11580:16 115B6:0 115B8:16 115CA:17 115DE:0 11600:16 11645:0 11650:16
  1165A:0 11660:18 1166D:0 11680:13 116B8:21 116B9:24 116BA:0 116C0:13 116CA:0 116D0:27 116E4:0
  11700:17 1171A:20 1171B:0 1171D:17 1172C:0 11730:17 11740:24 11747:0 11800:20 1183C:0 118A0:16
  118F3:0 118FF:16 11900:23 11907:0 11909:23 1190A:0 1190C:23 11914:0 11915:23 11917:0 11918:23
  11936:0 11937:23 11939:0 1193B:23 11947:0 11950:23 1195A:0 119A0:21 119A8:0 119AA:21 119D8:0
  119DA:21 119E5:0 11A00:19 11A48:0 11A50:19 11A84:21 11A86:19 11A9D:20 11A9E:19 11AA3:0
  11AB0:24 11AC0:16 11AF9:0 11B00:25 11B0A:0 11BC0:27 11BE2:0 11BF0:27 11BFA:0 11C00:18 11C09:0
  11C0A:18 11C37:0 11C38:18 11C46:0 11C50:18 11C6D:0 11C70:18 11C90:0 11C92:18 11CA8:0 11CA9:18
  11CB7:0 11D00:19 11D07:0 11D08:19 11D0A:0 11D0B:19 11D37:0 11D3A:19 11D3B:0 11D3C:19 11D3E:0
  11D3F:19 11D48:0 11D50:19 11D5A:0 11D60:20 11D66:0 11D67:20 11D69:0 11D6A:20 11D8F:0 11D90:20
  11D92:0 11D93:20 11D99:0 11DA0:20 11DAA:0 11EE0:20 11EF9:0 11F00:25 11F11:0 11F12:25 11F3B:0
  11F3E:25 11F5A:27 11F5B:0 11FB0:23 11FB1:0 11FC0:21 11FF2:0 11FFF:21 12000:9 1236F:16 12399:17
  1239A:0 12400:9 12463:16 1246F:0 12470:9 12474:16 12475:0 12480:17 12544:0 12F90:24 12FF3:0
  13000:11 1342F:25 13430:21 13439:25 13456:0 13460:27 143FB:0 14400:17 14647:0 16100:27 1613A:0
  16800:12 16A39:0 16A40:16 16A5F:0 16A60:16 16A6A:0 16A6E:16 16A70:24 16ABF:0 16AC0:24 16ACA:0
  16AD0:16 16AEE:0 16AF0:16 16AF6:0 16B00:16 16B46:0 16B50:16 16B5A:0 16B5B:16 16B62:0 16B63:16
  16B78:0 16B7D:16 16B90:0 16D40:27 16D7A:0 16E40:20 16E9B:0 16F00:13 16F45:21 16F4B:0 16F4F:21
  16F50:13 16F7F:21 16F88:0 16F8F:13 16FA0:0 16FE0:18 16FE1:19 16FE2:21 16FE4:23 16FE5:0
  16FF0:23 16FF2:0 17000:18 187ED:20 187F2:21 187F8:0 18800:18 18AF3:23 18CD6:0 18CFF:27
  18D00:23 18D09:0 1AFF0:24 1AFF4:0 1AFF5:24 1AFFC:0 1AFFD:24 1AFFF:0 1B000:12 1B002:19 1B11F:24
  1B123:0 1B132:25 1B133:0 1B150:21 1B153:0 1B155:25 1B156:0 1B164:21 1B168:0 1B170:19 1B2FC:0
  1BC00:16 1BC6B:0 1BC70:16 1BC7D:0 1BC80:16 1BC89:0 1BC90:16 1BC9A:0 1BC9C:16 1BCA4:0 1CC00:27
  1CCFA:0 1CD00:27 1CEB4:0 1CF00:24 1CF2E:0 1CF30:24 1CF47:0 1CF50:24 1CFC4:0 1D000:5 1D0F6:0
  1D100:5 1D127:0 1D129:10 1D12A:5 1D1DE:17 1D1E9:24 1D1EB:0 1D200:8 1D246:0 1D2C0:25 1D2D4:0
  1D2E0:20 1D2F4:0 1D300:7 1D357:0 1D360:9 1D372:20 1D379:0 1D400:5 1D455:0 1D456:5 1D49D:0
  1D49E:5 1D4A0:0 1D4A2:5 1D4A3:0 1D4A5:5 1D4A7:0 1D4A9:5 1D4AD:0 1D4AE:5 1D4BA:0 1D4BB:5
  1D4BC:0 1D4BD:5 1D4C1:7 1D4C2:5 1D4C4:0 1D4C5:5 1D506:0 1D507:5 1D50B:0 1D50D:5 1D515:0
  1D516:5 1D51D:0 1D51E:5 1D53A:0 1D53B:5 1D53F:0 1D540:5 1D545:0 1D546:5 1D547:0 1D54A:5
  1D551:0 1D552:5 1D6A4:8 1D6A6:0 1D6A8:5 1D7CA:9 1D7CC:0 1D7CE:5 1D800:17 1DA8C:0 1DA9B:17
  1DAA0:0 1DAA1:17 1DAB0:0 1DF00:24 1DF1F:0 1DF25:25 1DF2B:0 1E000:18 1E007:0 1E008:18 1E019:0
  1E01B:18 1E022:0 1E023:18 1E025:0 1E026:18 1E02B:0 1E030:25 1E06E:0 1E08F:25 1E090:0 1E100:21
  1E12D:0 1E130:21 1E13E:0 1E140:21 1E14A:0 1E14E:21 1E150:0 1E290:24 1E2AF:0 1E2C0:21 1E2FA:0
  1E2FF:21 1E300:0 1E4D0:25 1E4FA:0 1E5D0:27 1E5FB:0 1E5FF:27 1E600:0 1E7E0:24 1E7E7:0 1E7E8:24
  1E7EC:0 1E7ED:24 1E7EF:0 1E7F0:24 1E7FF:0 1E800:16 1E8C5:0 1E8C7:16 1E8D7:0 1E900:18 1E94B:21
  1E94C:0 1E950:18 1E95A:0 1E95E:18 1E960:0 1EC71:20 1ECB5:0 1ED01:21 1ED3E:0 1EE00:13 1EE04:0
  1EE05:13 1EE20:0 1EE21:13 1EE23:0 1EE24:13 1EE25:0 1EE27:13 1EE28:0 1EE29:13 1EE33:0 1EE34:13
  1EE38:0 1EE39:13 1EE3A:0 1EE3B:13 1EE3C:0 1EE42:13 1EE43:0 1EE47:13 1EE48:0 1EE49:13 1EE4A:0
  1EE4B:13 1EE4C:0 1EE4D:13 1EE50:0 1EE51:13 1EE53:0 1EE54:13 1EE55:0 1EE57:13 1EE58:0 1EE59:13
  1EE5A:0 1EE5B:13 1EE5C:0 1EE5D:13 1EE5E:0 1EE5F:13 1EE60:0 1EE61:13 1EE63:0 1EE64:13 1EE65:0
  1EE67:13 1EE6B:0 1EE6C:13 1EE73:0 1EE74:13 1EE78:0 1EE79:13 1EE7D:0 1EE7E:13 1EE7F:0 1EE80:13
  1EE8A:0 1EE8B:13 1EE9C:0 1EEA1:13 1EEA4:0 1EEA5:13 1EEAA:0 1EEAB:13 1EEBC:0 1EEF0:13 1EEF2:0
  1F000:10 1F02C:0 1F030:10 1F094:0 1F0A0:12 1F0AF:0 1F0B1:12 1F0BF:16 1F0C0:0 1F0C1:12 1F0D0:0
  1F0D1:12 1F0E0:16 1F0F6:0 1F100:11 1F10B:16 1F10D:23 1F110:11 1F12F:20 1F130:12 1F131:11
  1F132:12 1F13D:11 1F13E:12 1F13F:11 1F140:12 1F142:11 1F143:12 1F146:11 1F147:12 1F14A:11
  1F14F:12 1F157:11 1F158:12 1F15F:11 1F160:12 1F16A:13 1F16C:21 1F16D:23 1F170:12 1F179:11
  1F17A:12 1F17B:11 1F17D:12 1F17F:11 1F180:12 1F18A:11 1F18E:12 1F190:11 1F191:12 1F19B:18
  1F1AD:23 1F1AE:0 1F1E6:12 1F200:11 1F201:12 1F203:0 1F210:11 1F232:12 1F23B:18 1F23C:0
  1F240:11 1F249:0 1F250:12 1F252:0 1F260:19 1F266:0 1F300:12 1F321:16 1F32D:17 1F330:12
  1F336:16 1F337:12 1F37D:16 1F37E:17 1F380:12 1F394:16 1F3A0:12 1F3C5:16 1F3C6:12 1F3CB:16
  1F3CF:17 1F3D4:16 1F3E0:12 1F3F1:16 1F3F8:17 1F400:12 1F43F:16 1F440:12 1F441:16 1F442:12
  1F4F8:16 1F4F9:12 1F4FD:16 1F4FF:17 1F500:12 1F53E:16 1F540:13 1F544:16 1F54B:17 1F550:12
  1F568:16 1F57A:18 1F57B:16 1F5A4:18 1F5A5:16 1F5FB:12 1F600:13 1F601:12 1F611:13 1F612:12
  1F615:13 1F616:12 1F617:13 1F618:12 1F619:13 1F61A:12 1F61B:13 1F61C:12 1F61F:13 1F620:12
  1F626:13 1F628:12 1F62C:13 1F62D:12 1F62E:13 1F630:12 1F634:13 1F635:12 1F641:16 1F643:17
  1F645:12 1F650:16 1F680:12 1F6C6:16 1F6D0:17 1F6D1:18 1F6D3:19 1F6D5:21 1F6D6:23 1F6D8:0
  1F6DC:25 1F6DD:24 1F6E0:16 1F6ED:0 1F6F0:16 1F6F4:18 1F6F7:19 1F6F9:20 1F6FA:21 1F6FB:23
  1F6FD:0 1F700:12 1F774:25 1F777:0 1F77B:25 1F780:16 1F7D5:20 1F7D9:25 1F7DA:0 1F7E0:21 1F7EC:0
  1F7F0:24 1F7F1:0 1F800:16 1F80C:0 1F810:16 1F848:0 1F850:16 1F85A:0 1F860:16 1F888:0 1F890:16
  1F8AE:0 1F8B0:23 1F8B2:27 1F8BC:0 1F8C0:27 1F8C2:0 1F900:19 1F90C:23 1F90D:21 1F910:17
  1F919:18 1F91F:19 1F920:18 1F928:19 1F930:18 1F931:19 1F933:18 1F93F:21 1F940:18 1F94C:19
  1F94D:20 1F950:18 1F95F:19 1F96C:20 1F971:21 1F972:23 1F973:20 1F977:23 1F979:24 1F97A:20
  1F97B:21 1F97C:20 1F980:17 1F985:18 1F992:19 1F998:20 1F9A3:23 1F9A5:21 1F9AB:23 1F9AE:21
  1F9B0:20 1F9BA:21 1F9C0:17 1F9C1:20 1F9C3:21 1F9CB:23 1F9CC:24 1F9CD:21 1F9D0:19 1F9E7:20
  1FA00:21 1FA54:0 1FA60:20 1FA6E:0 1FA70:21 1FA74:23 1FA75:25 1FA78:21 1FA7B:24 1FA7D:0
  1FA80:21 1FA83:23 1FA87:25 1FA89:27 1FA8A:0 1FA8F:27 1FA90:21 1FA96:23 1FAA9:24 1FAAD:25
  1FAB0:23 1FAB7:24 1FABB:25 1FABE:27 1FABF:25 1FAC0:23 1FAC3:24 1FAC6:27 1FAC7:0 1FACE:25
  1FAD0:23 1FAD7:24 1FADA:25 1FADC:27 1FADD:0 1FADF:27 1FAE0:24 1FAE8:25 1FAE9:27 1FAEA:0
  1FAF0:24 1FAF7:25 1FAF9:0 1FB00:23 1FB93:0 1FB94:23 1FBCB:27 1FBF0:23 1FBFA:0 1FFFE:2 20000:5
  2A6D7:23 2A6DE:24 2A6E0:0 2A700:11 2B735:24 2B739:25 2B73A:0 2B740:12 2B81E:0 2B820:17 2CEA2:0
  2CEB0:19 2EBE1:0 2EBF0:26 2EE5E:0 2F800:5 2FA1E:0 2FFFE:2 30000:23 3134B:0 31350:25 323B0:0
  3FFFE:2 40000:0 4FFFE:2 50000:0 5FFFE:2 60000:0 6FFFE:2 70000:0 7FFFE:2 80000:0 8FFFE:2
  90000:0 9FFFE:2 A0000:0 AFFFE:2 B0000:0 BFFFE:2 C0000:0 CFFFE:2 D0000:0 DFFFE:2 E0000:0
  E0001:5 E0002:0 E0020:5 E0080:0 E0100:7 E01F0:0 EFFFE:2"

/-- The editions by name, and their numbers. -/
def ageNames : Aliases := Aliases.ofText
  "1.1:1 v11:1 2.0:2 v20:2 2.1:3 v21:3 3.0:4 v30:4 3.1:5 v31:5 3.2:6 v32:6 4.0:7 v40:7 4.1:8
  v41:8 5.0:9 v50:9 5.1:10 v51:10 5.2:11 v52:11 6.0:12 v60:12 6.1:13 v61:13 6.2:14 v62:14 6.3:15
  v63:15 7.0:16 v70:16 8.0:17 v80:17 9.0:18 v90:18 10.0:19 v100:19 11.0:20 v110:20 12.0:21
  v120:21 12.1:22 v121:22 13.0:23 v130:23 14.0:24 v140:24 15.0:25 v150:25 15.1:26 v151:26
  16.0:27 v160:27"

end CaseMatch.Unicode
