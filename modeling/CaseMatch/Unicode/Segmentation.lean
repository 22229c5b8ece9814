import CaseMatch.Unicode.Table

/-!
The roles that code points play in edition 16 of the standard where text is divided into perceived
characters, words and sentences.
-/

namespace CaseMatch.Unicode

/-- Where each run of code points of one role in breaks between the characters that a reader
perceives starts, with the name of the role. -/
def graphemeBreaks : Partition := Partition.ofText
  "0:Control A:LF B:Control D:CR E:Control 20:Other 7F:Control A0:Other AD:Control AE:Other
  300:Extend 370:Other 483:Extend 48A:Other 591:Extend 5BE:Other 5BF:Extend 5C0:Other 5C1:Extend
  5C3:Other 5C4:Extend 5C6:Other 5C7:Extend 5C8:Other 600:Prepend 606:Other 610:Extend 61B:Other
  61C:Control 61D:Other 64B:Extend 660:Other 670:Extend 671:Other 6D6:Extend 6DD:Prepend
  6DE:Other 6DF:Extend 6E5:Other 6E7:Extend 6E9:Other 6EA:Extend 6EE:Other 70F:Prepend 710:Other
  711:Extend 712:Other 730:Extend 74B:Other 7A6:Extend 7B1:Other 7EB:Extend 7F4:Other 7FD:Extend
  7FE:Other 816:Extend 81A:Other 81B:Extend 824:Other 825:Extend 828:Other 829:Extend 82E:Other
  859:Extend 85C:Other 890:Prepend 892:Other 897:Extend 8A0:Other 8CA:Extend 8E2:Prepend
  8E3:Extend 903:SpacingMark 904:Other 93A:Extend 93B:SpacingMark 93C:Extend 93D:Other
  93E:SpacingMark 941:Extend 949:SpacingMark 94D:Extend 94E:SpacingMark 950:Other 951:Extend
  958:Other 962:Extend 964:Other 981:Extend 982:SpacingMark 984:Other 9BC:Extend 9BD:Other
  9BE:Extend 9BF:SpacingMark 9C1:Extend 9C5:Other 9C7:SpacingMark 9C9:Other 9CB:SpacingMark
  9CD:Extend 9CE:Other 9D7:Extend 9D8:Other 9E2:Extend 9E4:Other 9FE:Extend 9FF:Other A01:Extend
  A03:SpacingMark A04:Other A3C:Extend A3D:Other A3E:SpacingMark A41:Extend A43:Other A47:Extend
  A49:Other A4B:Extend A4E:Other A51:Extend A52:Other A70:Extend A72:Other A75:Extend A76:Other
  A81:Extend A83:SpacingMark A84:Other ABC:Extend ABD:Other ABE:SpacingMark AC1:Extend AC6:Other
  AC7:Extend AC9:SpacingMark ACA:Other ACB:SpacingMark ACD:Extend ACE:Other AE2:Extend AE4:Other
  AFA:Extend B00:Other B01:Extend B02:SpacingMark B04:Other B3C:Extend B3D:Other B3E:Extend
  B40:SpacingMark B41:Extend B45:Other B47:SpacingMark B49:Other B4B:SpacingMark B4D:Extend
  B4E:Other B55:Extend B58:Other B62:Extend B64:Other B82:Extend B83:Other BBE:Extend
  BBF:SpacingMark BC0:Extend BC1:SpacingMark BC3:Other BC6:SpacingMark BC9:Other BCA:SpacingMark
  BCD:Extend BCE:Other BD7:Extend BD8:Other C00:Extend C01:SpacingMark C04:Extend C05:Other
  C3C:Extend C3D:Other C3E:Extend C41:SpacingMark C45:Other C46:Extend C49:Other C4A:Extend
  C4E:Other C55:Extend C57:Other C62:Extend C64:Other C81:Extend C82:SpacingMark C84:Other
  CBC:Extend CBD:Other CBE:SpacingMark CBF:Extend CC1:SpacingMark CC2:Extend CC3:SpacingMark
  CC5:Other CC6:Extend CC9:Other CCA:Extend CCE:Other CD5:Extend CD7:Other CE2:Extend CE4:Other
  CF3:SpacingMark CF4:Other D00:Extend D02:SpacingMark D04:Other D3B:Extend D3D:Other D3E:Extend
  D3F:SpacingMark D41:Extend D45:Other D46:SpacingMark D49:Other D4A:SpacingMark D4D:Extend
  D4E:Prepend D4F:Other D57:Extend D58:Other D62:Extend D64:Other D81:Extend D82:SpacingMark
  D84:Other DCA:Extend DCB:Other DCF:Extend DD0:SpacingMark DD2:Extend DD5:Other DD6:Extend
  DD7:Other DD8:SpacingMark DDF:Extend DE0:Other DF2:SpacingMark DF4:Other E31:Extend E32:Other
  E33:SpacingMark E34:Extend E3B:Other E47:Extend E4F:Other EB1:Extend EB2:Other EB3:SpacingMark
  EB4:Extend EBD:Other EC8:Extend ECF:Other F18:Extend F1A:Other F35:Extend F36:Other F37:Extend
  F38:Other F39:Extend F3A:Other F3E:SpacingMark F40:Other F71:Extend F7F:SpacingMark F80:Extend
  F85:Other F86:Extend F88:Other F8D:Extend F98:Other F99:Extend FBD:Other FC6:Extend FC7:Other
  102D:Extend 1031:SpacingMark 1032:Extend 1038:Other 1039:Extend 103B:SpacingMark 103D:Extend
  103F:Other 1056:SpacingMark 1058:Extend 105A:Other 105E:Extend 1061:Other 1071:Extend
  1075:Other 1082:Extend 1083:Other 1084:SpacingMark 1085:Extend 1087:Other 108D:Extend
  108E:Other 109D:Extend 109E:Other 1100:L 1160:V 11A8:T 1200:Other 135D:Extend 1360:Other
  1712:Extend 1716:Other 1732:Extend 1735:Other 1752:Extend 1754:Other 1772:Extend 1774:Other
  17B4:Extend 17B6:SpacingMark 17B7:Extend 17BE:SpacingMark 17C6:Extend 17C7:SpacingMark
  17C9:Extend 17D4:Other 17DD:Extend 17DE:Other 180B:Extend 180E:Control 180F:Extend 1810:Other
  1885:Extend 1887:Other 18A9:Extend 18AA:Other 1920:Extend 1923:SpacingMark 1927:Extend
  1929:SpacingMark 192C:Other 1930:SpacingMark 1932:Extend 1933:SpacingMark 1939:Extend
  193C:Other 1A17:Extend 1A19:SpacingMark 1A1B:Extend 1A1C:Other 1A55:SpacingMark 1A56:Extend
  1A57:SpacingMark 1A58:Extend 1A5F:Other 1A60:Extend 1A61:Other 1A62:Extend 1A63:Other
  1A65:Extend 1A6D:SpacingMark 1A73:Extend 1A7D:Other 1A7F:Extend 1A80:Other 1AB0:Extend
  1ACF:Other 1B00:Extend 1B04:SpacingMark 1B05:Other 1B34:Extend 1B3E:SpacingMark 1B42:Extend
  1B45:Other 1B6B:Extend 1B74:Other 1B80:Extend 1B82:SpacingMark 1B83:Other 1BA1:SpacingMark
  1BA2:Extend 1BA6:SpacingMark 1BA8:Extend 1BAE:Other 1BE6:Extend 1BE7:SpacingMark 1BE8:Extend
  1BEA:SpacingMark 1BED:Extend 1BEE:SpacingMark 1BEF:Extend 1BF4:Other 1C24:SpacingMark
  1C2C:Extend 1C34:SpacingMark 1C36:Extend 1C38:Other 1CD0:Extend 1CD3:Other 1CD4:Extend
  1CE1:SpacingMark 1CE2:Extend 1CE9:Other 1CED:Extend 1CEE:Other 1CF4:Extend 1CF5:Other
  1CF7:SpacingMark 1CF8:Extend 1CFA:Other 1DC0:Extend 1E00:Other 200B:Control 200C:Extend
  200D:ZWJ 200E:Control 2010:Other 2028:Control 202F:Other 2060:Control 2070:Other 20D0:Extend
  20F1:Other 2CEF:Extend 2CF2:Other 2D7F:Extend 2D80:Other 2DE0:Extend 2E00:Other 302A:Extend
  3030:Other 3099:Extend 309B:Other A66F:Extend A673:Other A674:Extend A67E:Other A69E:Extend
  A6A0:Other A6F0:Extend A6F2:Other A802:Extend A803:Other A806:Extend A807:Other A80B:Extend
  A80C:Other A823:SpacingMark A825:Extend A827:SpacingMark A828:Other A82C:Extend A82D:Other
  A880:SpacingMark A882:Other A8B4:SpacingMark A8C4:Extend A8C6:Other A8E0:Extend A8F2:Other
  A8FF:Extend A900:Other A926:Extend A92E:Other A947:Extend A952:SpacingMark A953:Extend
  A954:Other A960:L A97D:Other A980:Extend A983:SpacingMark A984:Other A9B3:Extend
  A9B4:SpacingMark A9B6:Extend A9BA:SpacingMark A9BC:Extend A9BE:SpacingMark A9C0:Extend
  A9C1:Other A9E5:Extend A9E6:Other AA29:Extend AA2F:SpacingMark AA31:Extend AA33:SpacingMark
  AA35:Extend AA37:Other AA43:Extend AA44:Other AA4C:Extend AA4D:SpacingMark AA4E:Other
  AA7C:Extend AA7D:Other AAB0:Extend AAB1:Other AAB2:Extend AAB5:Other AAB7:Extend AAB9:Other
  AABE:Extend AAC0:Other AAC1:Extend AAC2:Other AAEB:SpacingMark AAEC:Extend AAEE:SpacingMark
  AAF0:Other AAF5:SpacingMark AAF6:Extend AAF7:Other ABE3:SpacingMark ABE5:Extend
  ABE6:SpacingMark ABE8:Extend ABE9:SpacingMark ABEB:Other ABEC:SpacingMark ABED:Extend
  ABEE:Other AC00:LV AC01:LVT AC1C:LV AC1D:LVT AC38:LV AC39:LVT AC54:LV AC55:LVT AC70:LV
  AC71:LVT AC8C:LV AC8D:LVT ACA8:LV ACA9:LVT ACC4:LV ACC5:LVT ACE0:LV ACE1:LVT ACFC:LV ACFD:LVT
  AD18:LV AD19:LVT AD34:LV AD35:LVT AD50:LV AD51:LVT AD6C:LV AD6D:LVT AD88:LV AD89:LVT ADA4:LV
  ADA5:LVT ADC0:LV ADC1:LVT ADDC:LV ADDD:LVT ADF8:LV ADF9:LVT AE14:LV AE15:LVT AE30:LV AE31:LVT
  AE4C:LV AE4D:LVT AE68:LV AE69:LVT AE84:LV AE85:LVT AEA0:LV AEA1:LVT AEBC:LV AEBD:LVT AED8:LV
  AED9:LVT AEF4:LV AEF5:LVT AF10:LV AF11:LVT AF2C:LV AF2D:LVT AF48:LV AF49:LVT AF64:LV AF65:LVT
  AF80:LV AF81:LVT AF9C:LV AF9D:LVT AFB8:LV AFB9:LVT AFD4:LV AFD5:LVT AFF0:LV AFF1:LVT B00C:LV
  B00D:LVT B028:LV B029:LVT B044:LV B045:LVT B060:LV B061:LVT B07C:LV B07D:LVT B098:LV B099:LVT
  B0B4:LV B0B5:LVT B0D0:LV B0D1:LVT B0EC:LV B0ED:LVT B108:LV B109:LVT B124:LV B125:LVT B140:LV
  B141:LVT B15C:LV B15D:LVT B178:LV B179:LVT B194:LV B195:LVT B1B0:LV B1B1:LVT B1CC:LV B1CD:LVT
  B1E8:LV B1E9:LVT B204:LV B205:LVT B220:LV B221:LVT B23C:LV B23D:LVT B258:LV B259:LVT B274:LV
  B275:LVT B290:LV B291:LVT B2AC:LV B2AD:LVT B2C8:LV B2C9:LVT B2E4:LV B2E5:LVT B300:LV B301:LVT
  B31C:LV B31D:LVT B338:LV B339:LVT B354:LV B355:LVT B370:LV B371:LVT B38C:LV B38D:LVT B3A8:LV
  B3A9:LVT B3C4:LV B3C5:LVT B3E0:LV B3E1:LVT B3FC:LV B3FD:LVT B418:LV B419:LVT B434:LV B435:LVT
  B450:LV B451:LVT B46C:LV B46D:LVT B488:LV B489:LVT B4A4:LV B4A5:LVT B4C0:LV B4C1:LVT B4DC:LV
  B4DD:LVT B4F8:LV B4F9:LVT B514:LV B515:LVT B530:LV B531:LVT B54C:LV B54D:LVT B568:LV B569:LVT
  B584:LV B585:LVT B5A0:LV B5A1:LVT B5BC:LV B5BD:LVT B5D8:LV B5D9:LVT B5F4:LV B5F5:LVT B610:LV
  B611:LVT B62C:LV B62D:LVT B648:LV B649:LVT B664:LV B665:LVT B680:LV B681:LVT B69C:LV B69D:LVT
  B6B8:LV B6B9:LVT B6D4:LV B6D5:LVT B6F0:LV B6F1:LVT B70C:LV B70D:LVT B728:LV B729:LVT B744:LV
  B745:LVT B760:LV B761:LVT B77C:LV B77D:LVT B798:LV B799:LVT B7B4:LV B7B5:LVT B7D0:LV B7D1:LVT
  B7EC:LV B7ED:LVT B808:LV B809:LVT B824:LV B825:LVT B840:LV B841:LVT B85C:LV B85D:LVT B878:LV
  B879:LVT B894:LV B895:LVT B8B0:LV B8B1:LVT B8CC:LV B8CD:LVT B8E8:LV B8E9:LVT B904:LV B905:LVT
  B920:LV B921:LVT B93C:LV B93D:LVT B958:LV B959:LVT B974:LV B975:LVT B990:LV B991:LVT B9AC:LV
  B9AD:LVT B9C8:LV B9C9:LVT B9E4:LV B9E5:LVT BA00:LV BA01:LVT BA1C:LV BA1D:LVT BA38:LV BA39:LVT
  BA54:LV BA55:LVT BA70:LV BA71:LVT BA8C:LV BA8D:LVT BAA8:LV BAA9:LVT BAC4:LV BAC5:LVT BAE0:LV
  BAE1:LVT BAFC:LV BAFD:LVT BB18:LV BB19:LVT BB34:LV BB35:LVT BB50:LV BB51:LVT BB6C:LV BB6D:LVT
  BB88:LV BB89:LVT BBA4:LV BBA5:LVT BBC0:LV BBC1:LVT BBDC:LV BBDD:LVT BBF8:LV BBF9:LVT BC14:LV
  BC15:LVT BC30:LV BC31:LVT BC4C:LV BC4D:LVT BC68:LV BC69:LVT BC84:LV BC85:LVT BCA0:LV BCA1:LVT
  BCBC:LV BCBD:LVT BCD8:LV BCD9:LVT BCF4:LV BCF5:LVT BD10:LV BD11:LVT BD2C:LV BD2D:LVT BD48:LV
  BD49:LVT BD64:LV BD65:LVT BD80:LV BD81:LVT BD9C:LV BD9D:LVT BDB8:LV BDB9:LVT BDD4:LV BDD5:LVT
  BDF0:LV BDF1:LVT BE0C:LV BE0D:LVT BE28:LV BE29:LVT BE44:LV BE45:LVT BE60:LV BE61:LVT BE7C:LV
  BE7D:LVT BE98:LV BE99:LVT BEB4:LV BEB5:LVT BED0:LV BED1:LVT BEEC:LV BEED:LVT BF08:LV BF09:LVT
  BF24:LV BF25:LVT BF40:LV BF41:LVT BF5C:LV BF5D:LVT BF78:LV BF79:LVT BF94:LV BF95:LVT BFB0:LV
  BFB1:LVT BFCC:LV BFCD:LVT BFE8:LV BFE9:LVT C004:LV C005:LVT C020:LV C021:LVT C03C:LV C03D:LVT
  C058:LV C059:LVT C074:LV C075:LVT C090:LV C091:LVT C0AC:LV C0AD:LVT C0C8:LV C0C9:LVT C0E4:LV
  C0E5:LVT C100:LV C101:LVT C11C:LV C11D:LVT C138:LV C139:LVT C154:LV C155:LVT C170:LV C171:LVT
  C18C:LV C18D:LVT C1A8:LV C1A9:LVT C1C4:LV C1C5:LVT C1E0:LV C1E1:LVT C1FC:LV C1FD:LVT C218:LV
  C219:LVT C234:LV C235:LVT C250:LV C251:LVT C26C:LV C26D:LVT C288:LV C289:LVT C2A4:LV C2A5:LVT
  C2C0:LV C2C1:LVT C2DC:LV C2DD:LVT C2F8:LV C2F9:LVT C314:LV C315:LVT C330:LV C331:LVT C34C:LV
  C34D:LVT C368:LV C369:LVT C384:LV C385:LVT C3A0:LV C3A1:LVT C3BC:LV C3BD:LVT C3D8:LV C3D9:LVT
  C3F4:LV C3F5:LVT C410:LV C411:LVT C42C:LV C42D:LVT C448:LV C449:LVT C464:LV C465:LVT C480:LV
  C481:LVT C49C:LV C49D:LVT C4B8:LV C4B9:LVT C4D4:LV C4D5:LVT C4F0:LV C4F1:LVT C50C:LV C50D:LVT
  C528:LV C529:LVT C544:LV C545:LVT C560:LV C561:LVT C57C:LV C57D:LVT C598:LV C599:LVT C5B4:LV
  C5B5:LVT C5D0:LV C5D1:LVT C5EC:LV C5ED:LVT C608:LV C609:LVT C624:LV C625:LVT C640:LV C641:LVT
  C65C:LV C65D:LVT C678:LV C679:LVT C694:LV C695:LVT C6B0:LV C6B1:LVT C6CC:LV C6CD:LVT C6E8:LV
  C6E9:LVT C704:LV C705:LVT C720:LV C721:LVT C73C:LV C73D:LVT C758:LV C759:LVT C774:LV C775:LVT
  C790:LV C791:LVT C7AC:LV C7AD:LVT C7C8:LV C7C9:LVT C7E4:LV C7E5:LVT C800:LV C801:LVT C81C:LV
  C81D:LVT C838:LV C839:LVT C854:LV C855:LVT C870:LV C871:LVT C88C:LV C88D:LVT C8A8:LV C8A9:LVT
  C8C4:LV C8C5:LVT C8E0:LV C8E1:LVT C8FC:LV C8FD:LVT C918:LV C919:LVT C934:LV C935:LVT C950:LV
  C951:LVT C96C:LV C96D:LVT C988:LV C989:LVT C9A4:LV C9A5:LVT C9C0:LV C9C1:LVT C9DC:LV C9DD:LVT
  C9F8:LV C9F9:LVT CA14:LV CA15:LVT CA30:LV CA31:LVT CA4C:LV CA4D:LVT CA68:LV CA69:LVT CA84:LV
  CA85:LVT CAA0:LV CAA1:LVT CABC:LV CABD:LVT CAD8:LV CAD9:LVT CAF4:LV CAF5:LVT CB10:LV CB11:LVT
  CB2C:LV CB2D:LVT CB48:LV CB49:LVT CB64:LV CB65:LVT CB80:LV CB81:LVT CB9C:LV CB9D:LVT CBB8:LV
  CBB9:LVT CBD4:LV CBD5:LVT CBF0:LV CBF1:LVT CC0C:LV CC0D:LVT CC28:LV CC29:LVT CC44:LV CC45:LVT
  CC60:LV CC61:LVT CC7C:LV CC7D:LVT CC98:LV CC99:LVT CCB4:LV CCB5:LVT CCD0:LV CCD1:LVT CCEC:LV
  CCED:LVT CD08:LV CD09:LVT CD24:LV CD25:LVT CD40:LV CD41:LVT CD5C:LV CD5D:LVT CD78:LV CD79:LVT
  CD94:LV CD95:LVT CDB0:LV CDB1:LVT CDCC:LV CDCD:LVT CDE8:LV CDE9:LVT CE04:LV CE05:LVT CE20:LV
  CE21:LVT CE3C:LV CE3D:LVT CE58:LV CE59:LVT CE74:LV CE75:LVT CE90:LV CE91:LVT CEAC:LV CEAD:LVT
  CEC8:LV CEC9:LVT CEE4:LV CEE5:LVT CF00:LV CF01:LVT CF1C:LV CF1D:LVT CF38:LV CF39:LVT CF54:LV
  CF55:LVT CF70:LV CF71:LVT CF8C:LV CF8D:LVT CFA8:LV CFA9:LVT CFC4:LV CFC5:LVT CFE0:LV CFE1:LVT
  CFFC:LV CFFD:LVT D018:LV D019:LVT D034:LV D035:LVT D050:LV D051:LVT D06C:LV D06D:LVT D088:LV
  D089:LVT D0A4:LV D0A5:LVT D0C0:LV D0C1:LVT D0DC:LV D0DD:LVT D0F8:LV D0F9:LVT D114:LV D115:LVT
  D130:LV D131:LVT D14C:LV D14D:LVT D168:LV D169:LVT D184:LV D185:LVT D1A0:LV D1A1:LVT D1BC:LV
  D1BD:LVT D1D8:LV D1D9:LVT D1F4:LV D1F5:LVT D210:LV D211:LVT D22C:LV D22D:LVT D248:LV D249:LVT
  D264:LV D265:LVT D280:LV D281:LVT D29C:LV D29D:LVT D2B8:LV D2B9:LVT D2D4:LV D2D5:LVT D2F0:LV
  D2F1:LVT D30C:LV D30D:LVT D328:LV D329:LVT D344:LV D345:LVT D360:LV D361:LVT D37C:LV D37D:LVT
  D398:LV D399:LVT D3B4:LV D3B5:LVT D3D0:LV D3D1:LVT D3EC:LV D3ED:LVT D408:LV D409:LVT D424:LV
  D425:LVT D440:LV D441:LVT D45C:LV D45D:LVT D478:LV D479:LVT D494:LV D495:LVT D4B0:LV D4B1:LVT
  D4CC:LV D4CD:LVT D4E8:LV D4E9:LVT D504:LV D505:LVT D520:LV D521:LVT D53C:LV D53D:LVT D558:LV
  D559:LVT D574:LV D575:LVT D590:LV D591:LVT D5AC:LV D5AD:LVT D5C8:LV D5C9:LVT D5E4:LV D5E5:LVT
  D600:LV D601:LVT D61C:LV D61D:LVT D638:LV D639:LVT D654:LV D655:LVT D670:LV D671:LVT D68C:LV
  D68D:LVT D6A8:LV D6A9:LVT D6C4:LV D6C5:LVT D6E0:LV D6E1:LVT D6FC:LV D6FD:LVT D718:LV D719:LVT
  D734:LV D735:LVT D750:LV D751:LVT D76C:LV D76D:LVT D788:LV D789:LVT D7A4:Other D7B0:V
  D7C7:Other D7CB:T D7FC:Other FB1E:Extend FB1F:Other FE00:Extend FE10:Other FE20:Extend
  FE30:Other FEFF:Control FF00:Other FF9E:Extend FFA0:Other FFF0:Control FFFC:Other 101FD:Extend
  101FE:Other 102E0:Extend 102E1:Other 10376:Extend 1037B:Other 10A01:Extend 10A04:Other
  10A05:Extend 10A07:Other 10A0C:Extend 10A10:Other 10A38:Extend 10A3B:Other 10A3F:Extend
  10A40:Other 10AE5:Extend 10AE7:Other 10D24:Extend 10D28:Other 10D69:Extend 10D6E:Other
  10EAB:Extend 10EAD:Other 10EFC:Extend 10F00:Other 10F46:Extend 10F51:Other 10F82:Extend
  10F86:Other 11000:SpacingMark 11001:Extend 11002:SpacingMark 11003:Other 11038:Extend
  11047:Other 11070:Extend 11071:Other 11073:Extend 11075:Other 1107F:Extend 11082:SpacingMark
  11083:Other 110B0:SpacingMark 110B3:Extend 110B7:SpacingMark 110B9:Extend 110BB:Other
  110BD:Prepend 110BE:Other 110C2:Extend 110C3:Other 110CD:Prepend 110CE:Other 11100:Extend
  11103:Other 11127:Extend 1112C:SpacingMark 1112D:Extend 11135:Other 11145:SpacingMark
  11147:Other 11173:Extend 11174:Other 11180:Extend 11182:SpacingMark 11183:Other
  111B3:SpacingMark 111B6:Extend 111BF:SpacingMark 111C0:Extend 111C1:Other 111C2:Prepend
  111C4:Other 111C9:Extend 111CD:Other 111CE:SpacingMark 111CF:Extend 111D0:Other
  1122C:SpacingMark 1122F:Extend 11232:SpacingMark 11234:Extend 11238:Other 1123E:Extend
  1123F:Other 11241:Extend 11242:Other 112DF:Extend 112E0:SpacingMark 112E3:Extend 112EB:Other
  11300:Extend 11302:SpacingMark 11304:Other 1133B:Extend 1133D:Other 1133E:Extend
  1133F:SpacingMark 11340:Extend 11341:SpacingMark 11345:Other 11347:SpacingMark 11349:Other
  1134B:SpacingMark 1134D:Extend 1134E:Other 11357:Extend 11358:Other 11362:SpacingMark
  11364:Other 11366:Extend 1136D:Other 11370:Extend 11375:Other 113B8:Extend 113B9:SpacingMark
  113BB:Extend 113C1:Other 113C2:Extend 113C3:Other 113C5:Extend 113C6:Other 113C7:Extend
  113CA:SpacingMark 113CB:Other 113CC:SpacingMark 113CE:Extend 113D1:Prepend 113D2:Extend
  113D3:Other 113E1:Extend 113E3:Other 11435:SpacingMark 11438:Extend 11440:SpacingMark
  11442:Extend 11445:SpacingMark 11446:Extend 11447:Other 1145E:Extend 1145F:Other 114B0:Extend
  114B1:SpacingMark 114B3:Extend 114B9:SpacingMark 114BA:Extend 114BB:SpacingMark 114BD:Extend
  114BE:SpacingMark 114BF:Extend 114C1:SpacingMark 114C2:Extend 114C4:Other 115AF:Extend
  115B0:SpacingMark 115B2:Extend 115B6:Other 115B8:SpacingMark 115BC:Extend 115BE:SpacingMark
  115BF:Extend 115C1:Other 115DC:Extend 115DE:Other 11630:SpacingMark 11633:Extend
  1163B:SpacingMark 1163D:Extend 1163E:SpacingMark 1163F:Extend 11641:Other 116AB:Extend
  116AC:SpacingMark 116AD:Extend 116AE:SpacingMark 116B0:Extend 116B8:Other 1171D:Extend
  1171E:SpacingMark 1171F:Extend 11720:Other 11722:Extend 11726:SpacingMark 11727:Extend
  1172C:Other 1182C:SpacingMark 1182F:Extend 11838:SpacingMark 11839:Extend 1183B:Other
  11930:Extend 11931:SpacingMark 11936:Other 11937:SpacingMark 11939:Other 1193B:Extend
  1193F:Prepend 11940:SpacingMark 11941:Prepend 11942:SpacingMark 11943:Extend 11944:Other
  119D1:SpacingMark 119D4:Extend 119D8:Other 119DA:Extend 119DC:SpacingMark 119E0:Extend
  119E1:Other 119E4:SpacingMark 119E5:Other 11A01:Extend 11A0B:Other 11A33:Extend
  11A39:SpacingMark 11A3A:Prepend 11A3B:Extend 11A3F:Other 11A47:Extend 11A48:Other 11A51:Extend
  11A57:SpacingMark 11A59:Extend 11A5C:Other 11A84:Prepend 11A8A:Extend 11A97:SpacingMark
  11A98:Extend 11A9A:Other 11C2F:SpacingMark 11C30:Extend 11C37:Other 11C38:Extend
  11C3E:SpacingMark 11C3F:Extend 11C40:Other 11C92:Extend 11CA8:Other 11CA9:SpacingMark
  11CAA:Extend 11CB1:SpacingMark 11CB2:Extend 11CB4:SpacingMark 11CB5:Extend 11CB7:Other
  11D31:Extend 11D37:Other 11D3A:Extend 11D3B:Other 11D3C:Extend 11D3E:Other 11D3F:Extend
  11D46:Prepend 11D47:Extend 11D48:Other 11D8A:SpacingMark 11D8F:Other 11D90:Extend 11D92:Other
  11D93:SpacingMark 11D95:Extend 11D96:SpacingMark 11D97:Extend 11D98:Other 11EF3:Extend
  11EF5:SpacingMark 11EF7:Other 11F00:Extend 11F02:Prepend 11F03:SpacingMark 11F04:Other
  11F34:SpacingMark 11F36:Extend 11F3B:Other 11F3E:SpacingMark 11F40:Extend 11F43:Other
  11F5A:Extend 11F5B:Other 13430:Control 13440:Extend 13441:Other 13447:Extend 13456:Other
  1611E:Extend 1612A:SpacingMark 1612D:Extend 16130:Other 16AF0:Extend 16AF5:Other 16B30:Extend
  16B37:Other 16D63:V 16D64:Other 16D67:V 16D6B:Other 16F4F:Extend 16F50:Other 16F51:SpacingMark
  16F88:Other 16F8F:Extend 16F93:Other 16FE4:Extend 16FE5:Other 16FF0:Extend 16FF2:Other
  1BC9D:Extend 1BC9F:Other 1BCA0:Control 1BCA4:Other 1CF00:Extend 1CF2E:Other 1CF30:Extend
  1CF47:Other 1D165:Extend 1D16A:Other 1D16D:Extend 1D173:Control 1D17B:Extend 1D183:Other
  1D185:Extend 1D18C:Other 1D1AA:Extend 1D1AE:Other 1D242:Extend 1D245:Other 1DA00:Extend
  1DA37:Other 1DA3B:Extend 1DA6D:Other 1DA75:Extend 1DA76:Other 1DA84:Extend 1DA85:Other
  1DA9B:Extend 1DAA0:Other 1DAA1:Extend 1DAB0:Other 1E000:Extend 1E007:Other 1E008:Extend
  1E019:Other 1E01B:Extend 1E022:Other 1E023:Extend 1E025:Other 1E026:Extend 1E02B:Other
  1E08F:Extend 1E090:Other 1E130:Extend 1E137:Other 1E2AE:Extend 1E2AF:Other 1E2EC:Extend
  1E2F0:Other 1E4EC:Extend 1E4F0:Other 1E5EE:Extend 1E5F0:Other 1E8D0:Extend 1E8D7:Other
  1E944:Extend 1E94B:Other 1F1E6:Regional_Indicator 1F200:Other 1F3FB:Extend 1F400:Other
  E0000:Control E0020:Extend E0080:Control E0100:Extend E01F0:Control E1000:Other"

/-- The names of the roles in breaks between the characters that a reader perceives, and the role
each stands for. -/
def graphemeBreakNames : Aliases := Aliases.ofText
  "cn:Control control:Control cr:CR ex:Extend extend:Extend l:L lf:LF lv:LV lvt:LVT pp:Prepend
  prepend:Prepend regionalindicator:Regional_Indicator ri:Regional_Indicator sm:SpacingMark
  spacingmark:SpacingMark t:T v:V zwj:ZWJ"

/-- Where each run of code points of one role in breaks between words starts, with the name of the
role. -/
def wordBreaks : Partition := Partition.ofText
  "0:Other A:LF B:Newline D:CR E:Other 20:WSegSpace 21:Other 22:Double_Quote 23:Other
  27:Single_Quote 28:Other 2C:MidNum 2D:Other 2E:MidNumLet 2F:Other 30:Numeric 3A:MidLetter
  3B:MidNum 3C:Other 41:ALetter 5B:Other 5F:ExtendNumLet 60:Other 61:ALetter 7B:Other 85:Newline
  86:Other AA:ALetter AB:Other AD:Format AE:Other B5:ALetter B6:Other B7:MidLetter B8:Other
  BA:ALetter BB:Other C0:ALetter D7:Other D8:ALetter F7:Other F8:ALetter 2D8:Other 2DE:ALetter
  300:Extend 370:ALetter 375:Other 376:ALetter 378:Other 37A:ALetter 37E:MidNum 37F:ALetter
  380:Other 386:ALetter 387:MidLetter 388:ALetter 38B:Other 38C:ALetter 38D:Other 38E:ALetter
  3A2:Other 3A3:ALetter 3F6:Other 3F7:ALetter 482:Other 483:Extend 48A:ALetter 530:Other
  531:ALetter 557:Other 559:ALetter 55D:Other 55E:ALetter 55F:MidLetter 560:ALetter 589:MidNum
  58A:ALetter 58B:Other 591:Extend 5BE:Other 5BF:Extend 5C0:Other 5C1:Extend 5C3:Other
  5C4:Extend 5C6:Other 5C7:Extend 5C8:Other 5D0:Hebrew_Letter 5EB:Other 5EF:Hebrew_Letter
  5F3:ALetter 5F4:MidLetter 5F5:Other 600:Numeric 606:Other 60C:MidNum 60E:Other 610:Extend
  61B:Other 61C:Format 61D:Other 620:ALetter 64B:Extend 660:Numeric 66A:Other 66B:Numeric
  66C:MidNum 66D:Other 66E:ALetter 670:Extend 671:ALetter 6D4:Other 6D5:ALetter 6D6:Extend
  6DD:Numeric 6DE:Other 6DF:Extend 6E5:ALetter 6E7:Extend 6E9:Other 6EA:Extend 6EE:ALetter
  6F0:Numeric 6FA:ALetter 6FD:Other 6FF:ALetter 700:Other 70F:ALetter 711:Extend 712:ALetter
  730:Extend 74B:Other 74D:ALetter 7A6:Extend 7B1:ALetter 7B2:Other 7C0:Numeric 7CA:ALetter
  7EB:Extend 7F4:ALetter 7F6:Other 7F8:MidNum 7F9:Other 7FA:ALetter 7FB:Other 7FD:Extend
  7FE:Other 800:ALetter 816:Extend 81A:ALetter 81B:Extend 824:ALetter 825:Extend 828:ALetter
  829:Extend 82E:Other 840:ALetter 859:Extend 85C:Other 860:ALetter 86B:Other 870:ALetter
  888:Other 889:ALetter 88F:Other 890:Numeric 892:Other 897:Extend 8A0:ALetter 8CA:Extend
  8E2:Numeric 8E3:Extend 904:ALetter 93A:Extend 93D:ALetter 93E:Extend 950:ALetter 951:Extend
  958:ALetter 962:Extend 964:Other 966:Numeric 970:Other 971:ALetter 981:Extend 984:Other
  985:ALetter 98D:Other 98F:ALetter 991:Other 993:ALetter 9A9:Other 9AA:ALetter 9B1:Other
  9B2:ALetter 9B3:Other 9B6:ALetter 9BA:Other 9BC:Extend 9BD:ALetter 9BE:Extend 9C5:Other
  9C7:Extend 9C9:Other 9CB:Extend 9CE:ALetter 9CF:Other 9D7:Extend 9D8:Other 9DC:ALetter
  9DE:Other 9DF:ALetter 9E2:Extend 9E4:Other 9E6:Numeric 9F0:ALetter 9F2:Other 9FC:ALetter
  9FD:Other 9FE:Extend 9FF:Other A01:Extend A04:Other A05:ALetter A0B:Other A0F:ALetter
  A11:Other A13:ALetter A29:Other A2A:ALetter A31:Other A32:ALetter A34:Other A35:ALetter
  A37:Other A38:ALetter A3A:Other A3C:Extend A3D:Other A3E:Extend A43:Other A47:Extend A49:Other
  A4B:Extend A4E:Other A51:Extend A52:Other A59:ALetter A5D:Other A5E:ALetter A5F:Other
  A66:Numeric A70:Extend A72:ALetter A75:Extend A76:Other A81:Extend A84:Other A85:ALetter
  A8E:Other A8F:ALetter A92:Other A93:ALetter AA9:Other AAA:ALetter AB1:Other AB2:ALetter
  AB4:Other AB5:ALetter ABA:Other ABC:Extend ABD:ALetter ABE:Extend AC6:Other AC7:Extend
  ACA:Other ACB:Extend ACE:Other AD0:ALetter AD1:Other AE0:ALetter AE2:Extend AE4:Other
  AE6:Numeric AF0:Other AF9:ALetter AFA:Extend B00:Other B01:Extend B04:Other B05:ALetter
  B0D:Other B0F:ALetter B11:Other B13:ALetter B29:Other B2A:ALetter B31:Other B32:ALetter
  B34:Other B35:ALetter B3A:Other B3C:Extend B3D:ALetter B3E:Extend B45:Other B47:Extend
  B49:Other B4B:Extend B4E:Other B55:Extend B58:Other B5C:ALetter B5E:Other B5F:ALetter
  B62:Extend B64:Other B66:Numeric B70:Other B71:ALetter B72:Other B82:Extend B83:ALetter
  B84:Other B85:ALetter B8B:Other B8E:ALetter B91:Other B92:ALetter B96:Other B99:ALetter
  B9B:Other B9C:ALetter B9D:Other B9E:ALetter BA0:Other BA3:ALetter BA5:Other BA8:ALetter
  BAB:Other BAE:ALetter BBA:Other BBE:Extend BC3:Other BC6:Extend BC9:Other BCA:Extend BCE:Other
  BD0:ALetter BD1:Other BD7:Extend BD8:Other BE6:Numeric BF0:Other C00:Extend C05:ALetter
  C0D:Other C0E:ALetter C11:Other C12:ALetter C29:Other C2A:ALetter C3A:Other C3C:Extend
  C3D:ALetter C3E:Extend C45:Other C46:Extend C49:Other C4A:Extend C4E:Other C55:Extend
  C57:Other C58:ALetter C5B:Other C5D:ALetter C5E:Other C60:ALetter C62:Extend C64:Other
  C66:Numeric C70:Other C80:ALetter C81:Extend C84:Other C85:ALetter C8D:Other C8E:ALetter
  C91:Other C92:ALetter CA9:Other CAA:ALetter CB4:Other CB5:ALetter CBA:Other CBC:Extend
  CBD:ALetter CBE:Extend CC5:Other CC6:Extend CC9:Other CCA:Extend CCE:Other CD5:Extend
  CD7:Other CDD:ALetter CDF:Other CE0:ALetter CE2:Extend CE4:Other CE6:Numeric CF0:Other
  CF1:ALetter CF3:Extend CF4:Other D00:Extend D04:ALetter D0D:Other D0E:ALetter D11:Other
  D12:ALetter D3B:Extend D3D:ALetter D3E:Extend D45:Other D46:Extend D49:Other D4A:Extend
  D4E:ALetter D4F:Other D54:ALetter D57:Extend D58:Other D5F:ALetter D62:Extend D64:Other
  D66:Numeric D70:Other D7A:ALetter D80:Other D81:Extend D84:Other D85:ALetter D97:Other
  D9A:ALetter DB2:Other DB3:ALetter DBC:Other DBD:ALetter DBE:Other DC0:ALetter DC7:Other
  DCA:Extend DCB:Other DCF:Extend DD5:Other DD6:Extend DD7:Other DD8:Extend DE0:Other
  DE6:Numeric DF0:Other DF2:Extend DF4:Other E31:Extend E32:Other E34:Extend E3B:Other
  E47:Extend E4F:Other E50:Numeric E5A:Other EB1:Extend EB2:Other EB4:Extend EBD:Other
  EC8:Extend ECF:Other ED0:Numeric EDA:Other F00:ALetter F01:Other F18:Extend F1A:Other
  F20:Numeric F2A:Other F35:Extend F36:Other F37:Extend F38:Other F39:Extend F3A:Other
  F3E:Extend F40:ALetter F48:Other F49:ALetter F6D:Other F71:Extend F85:Other F86:Extend
  F88:ALetter F8D:Extend F98:Other F99:Extend FBD:Other FC6:Extend FC7:Other 102B:Extend
  103F:Other 1040:Numeric 104A:Other 1056:Extend 105A:Other 105E:Extend 1061:Other 1062:Extend
  1065:Other 1067:Extend 106E:Other 1071:Extend 1075:Other 1082:Extend 108E:Other 108F:Extend
  1090:Numeric 109A:Extend 109E:Other 10A0:ALetter 10C6:Other 10C7:ALetter 10C8:Other
  10CD:ALetter 10CE:Other 10D0:ALetter 10FB:Other 10FC:ALetter 1249:Other 124A:ALetter
  124E:Other 1250:ALetter 1257:Other 1258:ALetter 1259:Other 125A:ALetter 125E:Other
  1260:ALetter 1289:Other 128A:ALetter 128E:Other 1290:ALetter 12B1:Other 12B2:ALetter
  12B6:Other 12B8:ALetter 12BF:Other 12C0:ALetter 12C1:Other 12C2:ALetter 12C6:Other
  12C8:ALetter 12D7:Other 12D8:ALetter 1311:Other 1312:ALetter 1316:Other 1318:ALetter
  135B:Other 135D:Extend 1360:Other 1380:ALetter 1390:Other 13A0:ALetter 13F6:Other 13F8:ALetter
  13FE:Other 1401:ALetter 166D:Other 166F:ALetter 1680:WSegSpace 1681:ALetter 169B:Other
  16A0:ALetter 16EB:Other 16EE:ALetter 16F9:Other 1700:ALetter 1712:Extend 1716:Other
  171F:ALetter 1732:Extend 1735:Other 1740:ALetter 1752:Extend 1754:Other 1760:ALetter
  176D:Other 176E:ALetter 1771:Other 1772:Extend 1774:Other 17B4:Extend 17D4:Other 17DD:Extend
  17DE:Other 17E0:Numeric 17EA:Other 180B:Extend 180E:Format 180F:Extend 1810:Numeric 181A:Other
  1820:ALetter 1879:Other 1880:ALetter 1885:Extend 1887:ALetter 18A9:Extend 18AA:ALetter
  18AB:Other 18B0:ALetter 18F6:Other 1900:ALetter 191F:Other 1920:Extend 192C:Other 1930:Extend
  193C:Other 1946:Numeric 1950:Other 19D0:Numeric 19DA:Other 1A00:ALetter 1A17:Extend 1A1C:Other
  1A55:Extend 1A5F:Other 1A60:Extend 1A7D:Other 1A7F:Extend 1A80:Numeric 1A8A:Other 1A90:Numeric
  1A9A:Other 1AB0:Extend 1ACF:Other 1B00:Extend 1B05:ALetter 1B34:Extend 1B45:ALetter 1B4D:Other
  1B50:Numeric 1B5A:Other 1B6B:Extend 1B74:Other 1B80:Extend 1B83:ALetter 1BA1:Extend
  1BAE:ALetter 1BB0:Numeric 1BBA:ALetter 1BE6:Extend 1BF4:Other 1C00:ALetter 1C24:Extend
  1C38:Other 1C40:Numeric 1C4A:Other 1C4D:ALetter 1C50:Numeric 1C5A:ALetter 1C7E:Other
  1C80:ALetter 1C8B:Other 1C90:ALetter 1CBB:Other 1CBD:ALetter 1CC0:Other 1CD0:Extend 1CD3:Other
  1CD4:Extend 1CE9:ALetter 1CED:Extend 1CEE:ALetter 1CF4:Extend 1CF5:ALetter 1CF7:Extend
  1CFA:ALetter 1CFB:Other 1D00:ALetter 1DC0:Extend 1E00:ALetter 1F16:Other 1F18:ALetter
  1F1E:Other 1F20:ALetter 1F46:Other 1F48:ALetter 1F4E:Other 1F50:ALetter 1F58:Other
  1F59:ALetter 1F5A:Other 1F5B:ALetter 1F5C:Other 1F5D:ALetter 1F5E:Other 1F5F:ALetter
  1F7E:Other 1F80:ALetter 1FB5:Other 1FB6:ALetter 1FBD:Other 1FBE:ALetter 1FBF:Other
  1FC2:ALetter 1FC5:Other 1FC6:ALetter 1FCD:Other 1FD0:ALetter 1FD4:Other 1FD6:ALetter
  1FDC:Other 1FE0:ALetter 1FED:Other 1FF2:ALetter 1FF5:Other 1FF6:ALetter 1FFD:Other
  2000:WSegSpace 2007:Other 2008:WSegSpace 200B:Other 200C:Extend 200D:ZWJ 200E:Format
  2010:Other 2018:MidNumLet 201A:Other 2024:MidNumLet 2025:Other 2027:MidLetter 2028:Newline
  202A:Format 202F:ExtendNumLet 2030:Other 203F:ExtendNumLet 2041:Other 2044:MidNum 2045:Other
  2054:ExtendNumLet 2055:Other 205F:WSegSpace 2060:Format 2065:Other 2066:Format 2070:Other
  2071:ALetter 2072:Other 207F:ALetter 2080:Other 2090:ALetter 209D:Other 20D0:Extend 20F1:Other
  2102:ALetter 2103:Other 2107:ALetter 2108:Other 210A:ALetter 2114:Other 2115:ALetter
  2116:Other 2119:ALetter 211E:Other 2124:ALetter 2125:Other 2126:ALetter 2127:Other
  2128:ALetter 2129:Other 212A:ALetter 212E:Other 212F:ALetter 213A:Other 213C:ALetter
  2140:Other 2145:ALetter 214A:Other 214E:ALetter 214F:Other 2160:ALetter 2189:Other
  24B6:ALetter 24EA:Other 2C00:ALetter 2CE5:Other 2CEB:ALetter 2CEF:Extend 2CF2:ALetter
  2CF4:Other 2D00:ALetter 2D26:Other 2D27:ALetter 2D28:Other 2D2D:ALetter 2D2E:Other
  2D30:ALetter 2D68:Other 2D6F:ALetter 2D70:Other 2D7F:Extend 2D80:ALetter 2D97:Other
  2DA0:ALetter 2DA7:Other 2DA8:ALetter 2DAF:Other 2DB0:ALetter 2DB7:Other 2DB8:ALetter
  2DBF:Other 2DC0:ALetter 2DC7:Other 2DC8:ALetter 2DCF:Other 2DD0:ALetter 2DD7:Other
  2DD8:ALetter 2DDF:Other 2DE0:Extend 2E00:Other 2E2F:ALetter 2E30:Other 3000:WSegSpace
  3001:Other 3005:ALetter 3006:Other 302A:Extend 3030:Other 3031:Katakana 3036:Other
  303B:ALetter 303D:Other 3099:Extend 309B:Katakana 309D:Other 30A0:Katakana 30FB:Other
  30FC:Katakana 3100:Other 3105:ALetter 3130:Other 3131:ALetter 318F:Other 31A0:ALetter
  31C0:Other 31F0:Katakana 3200:Other 32D0:Katakana 32FF:Other 3300:Katakana 3358:Other
  A000:ALetter A48D:Other A4D0:ALetter A4FE:Other A500:ALetter A60D:Other A610:ALetter
  A620:Numeric A62A:ALetter A62C:Other A640:ALetter A66F:Extend A673:Other A674:Extend
  A67E:Other A67F:ALetter A69E:Extend A6A0:ALetter A6F0:Extend A6F2:Other A708:ALetter
  A7CE:Other A7D0:ALetter A7D2:Other A7D3:ALetter A7D4:Other A7D5:ALetter A7DD:Other
  A7F2:ALetter A802:Extend A803:ALetter A806:Extend A807:ALetter A80B:Extend A80C:ALetter
  A823:Extend A828:Other A82C:Extend A82D:Other A840:ALetter A874:Other A880:Extend A882:ALetter
  A8B4:Extend A8C6:Other A8D0:Numeric A8DA:Other A8E0:Extend A8F2:ALetter A8F8:Other
  A8FB:ALetter A8FC:Other A8FD:ALetter A8FF:Extend A900:Numeric A90A:ALetter A926:Extend
  A92E:Other A930:ALetter A947:Extend A954:Other A960:ALetter A97D:Other A980:Extend
  A984:ALetter A9B3:Extend A9C1:Other A9CF:ALetter A9D0:Numeric A9DA:Other A9E5:Extend
  A9E6:Other A9F0:Numeric A9FA:Other AA00:ALetter AA29:Extend AA37:Other AA40:ALetter
  AA43:Extend AA44:ALetter AA4C:Extend AA4E:Other AA50:Numeric AA5A:Other AA7B:Extend AA7E:Other
  AAB0:Extend AAB1:Other AAB2:Extend AAB5:Other AAB7:Extend AAB9:Other AABE:Extend AAC0:Other
  AAC1:Extend AAC2:Other AAE0:ALetter AAEB:Extend AAF0:Other AAF2:ALetter AAF5:Extend AAF7:Other
  AB01:ALetter AB07:Other AB09:ALetter AB0F:Other AB11:ALetter AB17:Other AB20:ALetter
  AB27:Other AB28:ALetter AB2F:Other AB30:ALetter AB6A:Other AB70:ALetter ABE3:Extend ABEB:Other
  ABEC:Extend ABEE:Other ABF0:Numeric ABFA:Other AC00:ALetter D7A4:Other D7B0:ALetter D7C7:Other
  D7CB:ALetter D7FC:Other FB00:ALetter FB07:Other FB13:ALetter FB18:Other FB1D:Hebrew_Letter
  FB1E:Extend FB1F:Hebrew_Letter FB29:Other FB2A:Hebrew_Letter FB37:Other FB38:Hebrew_Letter
  FB3D:Other FB3E:Hebrew_Letter FB3F:Other FB40:Hebrew_Letter FB42:Other FB43:Hebrew_Letter
  FB45:Other FB46:Hebrew_Letter FB50:ALetter FBB2:Other FBD3:ALetter FD3E:Other FD50:ALetter
  FD90:Other FD92:ALetter FDC8:Other FDF0:ALetter FDFC:Other FE00:Extend FE10:Other
  FE13:MidLetter FE14:Other FE20:Extend FE30:Other FE33:ExtendNumLet FE35:Other
  FE4D:ExtendNumLet FE50:MidNum FE51:Other FE52:MidNumLet FE53:Other FE54:MidNum FE55:MidLetter
  FE56:Other FE70:ALetter FE75:Other FE76:ALetter FEFD:Other FEFF:Format FF00:Other
  FF07:MidNumLet FF08:Other FF0C:MidNum FF0D:Other FF0E:MidNumLet FF0F:Other FF10:Numeric
  FF1A:MidLetter FF1B:MidNum FF1C:Other FF21:ALetter FF3B:Other FF3F:ExtendNumLet FF40:Other
  FF41:ALetter FF5B:Other FF66:Katakana FF9E:Extend FFA0:ALetter FFBF:Other FFC2:ALetter
  FFC8:Other FFCA:ALetter FFD0:Other FFD2:ALetter FFD8:Other FFDA:ALetter FFDD:Other FFF9:Format
  FFFC:Other 10000:ALetter 1000C:Other 1000D:ALetter 10027:Other 10028:ALetter 1003B:Other
  1003C:ALetter 1003E:Other 1003F:ALetter 1004E:Other 10050:ALetter 1005E:Other 10080:ALetter
  100FB:Other 10140:ALetter 10175:Other 101FD:Extend 101FE:Other 10280:ALetter 1029D:Other
  102A0:ALetter 102D1:Other 102E0:Extend 102E1:Other 10300:ALetter 10320:Other 1032D:ALetter
  1034B:Other 10350:ALetter 10376:Extend 1037B:Other 10380:ALetter 1039E:Other 103A0:ALetter
  103C4:Other 103C8:ALetter 103D0:Other 103D1:ALetter 103D6:Other 10400:ALetter 1049E:Other
  104A0:Numeric 104AA:Other 104B0:ALetter 104D4:Other 104D8:ALetter 104FC:Other 10500:ALetter
  10528:Other 10530:ALetter 10564:Other 10570:ALetter 1057B:Other 1057C:ALetter 1058B:Other
  1058C:ALetter 10593:Other 10594:ALetter 10596:Other 10597:ALetter 105A2:Other 105A3:ALetter
  105B2:Other 105B3:ALetter 105BA:Other 105BB:ALetter 105BD:Other 105C0:ALetter 105F4:Other
  10600:ALetter 10737:Other 10740:ALetter 10756:Other 10760:ALetter 10768:Other 10780:ALetter
  10786:Other 10787:ALetter 107B1:Other 107B2:ALetter 107BB:Other 10800:ALetter 10806:Other
  10808:ALetter 10809:Other 1080A:ALetter 10836:Other 10837:ALetter 10839:Other 1083C:ALetter
  1083D:Other 1083F:ALetter 10856:Other 10860:ALetter 10877:Other 10880:ALetter 1089F:Other
  108E0:ALetter 108F3:Other 108F4:ALetter 108F6:Other 10900:ALetter 10916:Other 10920:ALetter
  1093A:Other 10980:ALetter 109B8:Other 109BE:ALetter 109C0:Other 10A00:ALetter 10A01:Extend
  10A04:Other 10A05:Extend 10A07:Other 10A0C:Extend 10A10:ALetter 10A14:Other 10A15:ALetter
  10A18:Other 10A19:ALetter 10A36:Other 10A38:Extend 10A3B:Other 10A3F:Extend 10A40:Other
  10A60:ALetter 10A7D:Other 10A80:ALetter 10A9D:Other 10AC0:ALetter 10AC8:Other 10AC9:ALetter
  10AE5:Extend 10AE7:Other 10B00:ALetter 10B36:Other 10B40:ALetter 10B56:Other 10B60:ALetter
  10B73:Other 10B80:ALetter 10B92:Other 10C00:ALetter 10C49:Other 10C80:ALetter 10CB3:Other
  10CC0:ALetter 10CF3:Other 10D00:ALetter 10D24:Extend 10D28:Other 10D30:Numeric 10D3A:Other
  10D40:Numeric 10D4A:ALetter 10D66:Other 10D69:Extend 10D6E:Other 10D6F:ALetter 10D86:Other
  10E80:ALetter 10EAA:Other 10EAB:Extend 10EAD:Other 10EB0:ALetter 10EB2:Other 10EC2:ALetter
  10EC5:Other 10EFC:Extend 10F00:ALetter 10F1D:Other 10F27:ALetter 10F28:Other 10F30:ALetter
  10F46:Extend 10F51:Other 10F70:ALetter 10F82:Extend 10F86:Other 10FB0:ALetter 10FC5:Other
  10FE0:ALetter 10FF7:Other 11000:Extend 11003:ALetter 11038:Extend 11047:Other 11066:Numeric
  11070:Extend 11071:ALetter 11073:Extend 11075:ALetter 11076:Other 1107F:Extend 11083:ALetter
  110B0:Extend 110BB:Other 110BD:Numeric 110BE:Other 110C2:Extend 110C3:Other 110CD:Numeric
  110CE:Other 110D0:ALetter 110E9:Other 110F0:Numeric 110FA:Other 11100:Extend 11103:ALetter
  11127:Extend 11135:Other 11136:Numeric 11140:Other 11144:ALetter 11145:Extend 11147:ALetter
  11148:Other 11150:ALetter 11173:Extend 11174:Other 11176:ALetter 11177:Other 11180:Extend
  11183:ALetter 111B3:Extend 111C1:ALetter 111C5:Other 111C9:Extend 111CD:Other 111CE:Extend
  111D0:Numeric 111DA:ALetter 111DB:Other 111DC:ALetter 111DD:Other 11200:ALetter 11212:Other
  11213:ALetter 1122C:Extend 11238:Other 1123E:Extend 1123F:ALetter 11241:Extend 11242:Other
  11280:ALetter 11287:Other 11288:ALetter 11289:Other 1128A:ALetter 1128E:Other 1128F:ALetter
  1129E:Other 1129F:ALetter 112A9:Other 112B0:ALetter 112DF:Extend 112EB:Other 112F0:Numeric
  112FA:Other 11300:Extend 11304:Other 11305:ALetter 1130D:Other 1130F:ALetter 11311:Other
  11313:ALetter 11329:Other 1132A:ALetter 11331:Other 11332:ALetter 11334:Other 11335:ALetter
  1133A:Other 1133B:Extend 1133D:ALetter 1133E:Extend 11345:Other 11347:Extend 11349:Other
  1134B:Extend 1134E:Other 11350:ALetter 11351:Other 11357:Extend 11358:Other 1135D:ALetter
  11362:Extend 11364:Other 11366:Extend 1136D:Other 11370:Extend 11375:Other 11380:ALetter
  1138A:Other 1138B:ALetter 1138C:Other 1138E:ALetter 1138F:Other 11390:ALetter 113B6:Other
  113B7:ALetter 113B8:Extend 113C1:Other 113C2:Extend 113C3:Other 113C5:Extend 113C6:Other
  113C7:Extend 113CB:Other 113CC:Extend 113D1:ALetter 113D2:Extend 113D3:ALetter 113D4:Other
  113E1:Extend 113E3:Other 11400:ALetter 11435:Extend 11447:ALetter 1144B:Other 11450:Numeric
  1145A:Other 1145E:Extend 1145F:ALetter 11462:Other 11480:ALetter 114B0:Extend 114C4:ALetter
  114C6:Other 114C7:ALetter 114C8:Other 114D0:Numeric 114DA:Other 11580:ALetter 115AF:Extend
  115B6:Other 115B8:Extend 115C1:Other 115D8:ALetter 115DC:Extend 115DE:Other 11600:ALetter
  11630:Extend 11641:Other 11644:ALetter 11645:Other 11650:Numeric 1165A:Other 11680:ALetter
  116AB:Extend 116B8:ALetter 116B9:Other 116C0:Numeric 116CA:Other 116D0:Numeric 116E4:Other
  1171D:Extend 1172C:Other 11730:Numeric 1173A:Other 11800:ALetter 1182C:Extend 1183B:Other
  118A0:ALetter 118E0:Numeric 118EA:Other 118FF:ALetter 11907:Other 11909:ALetter 1190A:Other
  1190C:ALetter 11914:Other 11915:ALetter 11917:Other 11918:ALetter 11930:Extend 11936:Other
  11937:Extend 11939:Other 1193B:Extend 1193F:ALetter 11940:Extend 11941:ALetter 11942:Extend
  11944:Other 11950:Numeric 1195A:Other 119A0:ALetter 119A8:Other 119AA:ALetter 119D1:Extend
  119D8:Other 119DA:Extend 119E1:ALetter 119E2:Other 119E3:ALetter 119E4:Extend 119E5:Other
  11A00:ALetter 11A01:Extend 11A0B:ALetter 11A33:Extend 11A3A:ALetter 11A3B:Extend 11A3F:Other
  11A47:Extend 11A48:Other 11A50:ALetter 11A51:Extend 11A5C:ALetter 11A8A:Extend 11A9A:Other
  11A9D:ALetter 11A9E:Other 11AB0:ALetter 11AF9:Other 11BC0:ALetter 11BE1:Other 11BF0:Numeric
  11BFA:Other 11C00:ALetter 11C09:Other 11C0A:ALetter 11C2F:Extend 11C37:Other 11C38:Extend
  11C40:ALetter 11C41:Other 11C50:Numeric 11C5A:Other 11C72:ALetter 11C90:Other 11C92:Extend
  11CA8:Other 11CA9:Extend 11CB7:Other 11D00:ALetter 11D07:Other 11D08:ALetter 11D0A:Other
  11D0B:ALetter 11D31:Extend 11D37:Other 11D3A:Extend 11D3B:Other 11D3C:Extend 11D3E:Other
  11D3F:Extend 11D46:ALetter 11D47:Extend 11D48:Other 11D50:Numeric 11D5A:Other 11D60:ALetter
  11D66:Other 11D67:ALetter 11D69:Other 11D6A:ALetter 11D8A:Extend 11D8F:Other 11D90:Extend
  11D92:Other 11D93:Extend 11D98:ALetter 11D99:Other 11DA0:Numeric 11DAA:Other 11EE0:ALetter
  11EF3:Extend 11EF7:Other 11F00:Extend 11F02:ALetter 11F03:Extend 11F04:ALetter 11F11:Other
  11F12:ALetter 11F34:Extend 11F3B:Other 11F3E:Extend 11F43:Other 11F50:Numeric 11F5A:Extend
  11F5B:Other 11FB0:ALetter 11FB1:Other 12000:ALetter 1239A:Other 12400:ALetter 1246F:Other
  12480:ALetter 12544:Other 12F90:ALetter 12FF1:Other 13000:ALetter 13430:Format 13440:Extend
  13441:ALetter 13447:Extend 13456:Other 13460:ALetter 143FB:Other 14400:ALetter 14647:Other
  16100:ALetter 1611E:Extend 16130:Numeric 1613A:Other 16800:ALetter 16A39:Other 16A40:ALetter
  16A5F:Other 16A60:Numeric 16A6A:Other 16A70:ALetter 16ABF:Other 16AC0:Numeric 16ACA:Other
  16AD0:ALetter 16AEE:Other 16AF0:Extend 16AF5:Other 16B00:ALetter 16B30:Extend 16B37:Other
  16B40:ALetter 16B44:Other 16B50:Numeric 16B5A:Other 16B63:ALetter 16B78:Other 16B7D:ALetter
  16B90:Other 16D40:ALetter 16D6D:Other 16D70:Numeric 16D7A:Other 16E40:ALetter 16E80:Other
  16F00:ALetter 16F4B:Other 16F4F:Extend 16F50:ALetter 16F51:Extend 16F88:Other 16F8F:Extend
  16F93:ALetter 16FA0:Other 16FE0:ALetter 16FE2:Other 16FE3:ALetter 16FE4:Extend 16FE5:Other
  16FF0:Extend 16FF2:Other 1AFF0:Katakana 1AFF4:Other 1AFF5:Katakana 1AFFC:Other 1AFFD:Katakana
  1AFFF:Other 1B000:Katakana 1B001:Other 1B120:Katakana 1B123:Other 1B155:Katakana 1B156:Other
  1B164:Katakana 1B168:Other 1BC00:ALetter 1BC6B:Other 1BC70:ALetter 1BC7D:Other 1BC80:ALetter
  1BC89:Other 1BC90:ALetter 1BC9A:Other 1BC9D:Extend 1BC9F:Other 1BCA0:Format 1BCA4:Other
  1CCF0:Numeric 1CCFA:Other 1CF00:Extend 1CF2E:Other 1CF30:Extend 1CF47:Other 1D165:Extend
  1D16A:Other 1D16D:Extend 1D173:Format 1D17B:Extend 1D183:Other 1D185:Extend 1D18C:Other
  1D1AA:Extend 1D1AE:Other 1D242:Extend 1D245:Other 1D400:ALetter 1D455:Other 1D456:ALetter
  1D49D:Other 1D49E:ALetter 1D4A0:Other 1D4A2:ALetter 1D4A3:Other 1D4A5:ALetter 1D4A7:Other
  1D4A9:ALetter 1D4AD:Other 1D4AE:ALetter 1D4BA:Other 1D4BB:ALetter 1D4BC:Other 1D4BD:ALetter
  1D4C4:Other 1D4C5:ALetter 1D506:Other 1D507:ALetter 1D50B:Other 1D50D:ALetter 1D515:Other
  1D516:ALetter 1D51D:Other 1D51E:ALetter 1D53A:Other 1D53B:ALetter 1D53F:Other 1D540:ALetter
  1D545:Other 1D546:ALetter 1D547:Other 1D54A:ALetter 1D551:Other 1D552:ALetter 1D6A6:Other
  1D6A8:ALetter 1D6C1:Other 1D6C2:ALetter 1D6DB:Other 1D6DC:ALetter 1D6FB:Other 1D6FC:ALetter
  1D715:Other 1D716:ALetter 1D735:Other 1D736:ALetter 1D74F:Other 1D750:ALetter 1D76F:Other
  1D770:ALetter 1D789:Other 1D78A:ALetter 1D7A9:Other 1D7AA:ALetter 1D7C3:Other 1D7C4:ALetter
  1D7CC:Other 1D7CE:Numeric 1D800:Other 1DA00:Extend 1DA37:Other 1DA3B:Extend 1DA6D:Other
  1DA75:Extend 1DA76:Other 1DA84:Extend 1DA85:Other 1DA9B:Extend 1DAA0:Other 1DAA1:Extend
  1DAB0:Other 1DF00:ALetter 1DF1F:Other 1DF25:ALetter 1DF2B:Other 1E000:Extend 1E007:Other
  1E008:Extend 1E019:Other 1E01B:Extend 1E022:Other 1E023:Extend 1E025:Other 1E026:Extend
  1E02B:Other 1E030:ALetter 1E06E:Other 1E08F:Extend 1E090:Other 1E100:ALetter 1E12D:Other
  1E130:Extend 1E137:ALetter 1E13E:Other 1E140:Numeric 1E14A:Other 1E14E:ALetter 1E14F:Other
  1E290:ALetter 1E2AE:Extend 1E2AF:Other 1E2C0:ALetter 1E2EC:Extend 1E2F0:Numeric 1E2FA:Other
  1E4D0:ALetter 1E4EC:Extend 1E4F0:Numeric 1E4FA:Other 1E5D0:ALetter 1E5EE:Extend 1E5F0:ALetter
  1E5F1:Numeric 1E5FB:Other 1E7E0:ALetter 1E7E7:Other 1E7E8:ALetter 1E7EC:Other 1E7ED:ALetter
  1E7EF:Other 1E7F0:ALetter 1E7FF:Other 1E800:ALetter 1E8C5:Other 1E8D0:Extend 1E8D7:Other
  1E900:ALetter 1E944:Extend 1E94B:ALetter 1E94C:Other 1E950:Numeric 1E95A:Other 1EE00:ALetter
  1EE04:Other 1EE05:ALetter 1EE20:Other 1EE21:ALetter 1EE23:Other 1EE24:ALetter 1EE25:Other
  1EE27:ALetter 1EE28:Other 1EE29:ALetter 1EE33:Other 1EE34:ALetter 1EE38:Other 1EE39:ALetter
  1EE3A:Other 1EE3B:ALetter 1EE3C:Other 1EE42:ALetter 1EE43:Other 1EE47:ALetter 1EE48:Other
  1EE49:ALetter 1EE4A:Other 1EE4B:ALetter 1EE4C:Other 1EE4D:ALetter 1EE50:Other 1EE51:ALetter
  1EE53:Other 1EE54:ALetter 1EE55:Other 1EE57:ALetter 1EE58:Other 1EE59:ALetter 1EE5A:Other
  1EE5B:ALetter 1EE5C:Other 1EE5D:ALetter 1EE5E:Other 1EE5F:ALetter 1EE60:Other 1EE61:ALetter
  1EE63:Other 1EE64:ALetter 1EE65:Other 1EE67:ALetter 1EE6B:Other 1EE6C:ALetter 1EE73:Other
  1EE74:ALetter 1EE78:Other 1EE79:ALetter 1EE7D:Other 1EE7E:ALetter 1EE7F:Other 1EE80:ALetter
  1EE8A:Other 1EE8B:ALetter 1EE9C:Other 1EEA1:ALetter 1EEA4:Other 1EEA5:ALetter 1EEAA:Other
  1EEAB:ALetter 1EEBC:Other 1F130:ALetter 1F14A:Other 1F150:ALetter 1F16A:Other 1F170:ALetter
  1F18A:Other 1F1E6:Regional_Indicator 1F200:Other 1F3FB:Extend 1F400:Other 1FBF0:Numeric
  1FBFA:Other E0001:Format E0002:Other E0020:Extend E0080:Other E0100:Extend E01F0:Other"

/-- The names of the roles in breaks between words, and the role each stands for. -/
def wordBreakNames : Aliases := Aliases.ofText
  "cr:CR doublequote:Double_Quote dq:Double_Quote ex:ExtendNumLet extendnumlet:ExtendNumLet
  extend:Extend fo:Format format:Format hebrewletter:Hebrew_Letter hl:Hebrew_Letter ka:Katakana
  katakana:Katakana aletter:ALetter le:ALetter lf:LF mb:MidNumLet midnumlet:MidNumLet
  midletter:MidLetter ml:MidLetter midnum:MidNum mn:MidNum newline:Newline nl:Newline nu:Numeric
  numeric:Numeric regionalindicator:Regional_Indicator ri:Regional_Indicator
  singlequote:Single_Quote sq:Single_Quote wsegspace:WSegSpace zwj:ZWJ"

/-- Where each run of code points of one role in breaks between sentences starts, with the name of
the role. -/
def sentenceBreaks : Partition := Partition.ofText
  "0:Other 9:Sp A:LF B:Sp D:CR E:Other 20:Sp 21:STerm 22:Close 23:Other 27:Close 2A:Other
  2C:SContinue 2E:ATerm 2F:Other 30:Numeric 3A:SContinue 3C:Other 3F:STerm 40:Other 41:Upper
  5B:Close 5C:Other 5D:Close 5E:Other 61:Lower 7B:Close 7C:Other 7D:Close 7E:Other 85:Sep
  86:Other A0:Sp A1:Other AA:Lower AB:Close AC:Other AD:Format AE:Other B5:Lower B6:Other
  BA:Lower BB:Close BC:Other C0:Upper D7:Other D8:Upper DF:Lower F7:Other F8:Lower 100:Upper
  101:Lower 102:Upper 103:Lower 104:Upper 105:Lower 106:Upper 107:Lower 108:Upper 109:Lower
  10A:Upper 10B:Lower 10C:Upper 10D:Lower 10E:Upper 10F:Lower 110:Upper 111:Lower 112:Upper
  113:Lower 114:Upper 115:Lower 116:Upper 117:Lower 118:Upper 119:Lower 11A:Upper 11B:Lower
  11C:Upper 11D:Lower 11E:Upper 11F:Lower 120:Upper 121:Lower 122:Upper 123:Lower 124:Upper
  125:Lower 126:Upper 127:Lower 128:Upper 129:Lower 12A:Upper 12B:Lower 12C:Upper 12D:Lower
  12E:Upper 12F:Lower 130:Upper 131:Lower 132:Upper 133:Lower 134:Upper 135:Lower 136:Upper
  137:Lower 139:Upper 13A:Lower 13B:Upper 13C:Lower 13D:Upper 13E:Lower 13F:Upper 140:Lower
  141:Upper 142:Lower 143:Upper 144:Lower 145:Upper 146:Lower 147:Upper 148:Lower 14A:Upper
  14B:Lower 14C:Upper 14D:Lower 14E:Upper 14F:Lower 150:Upper 151:Lower 152:Upper 153:Lower
  154:Upper 155:Lower 156:Upper 157:Lower 158:Upper 159:Lower 15A:Upper 15B:Lower 15C:Upper
  15D:Lower 15E:Upper 15F:Lower 160:Upper 161:Lower 162:Upper 163:Lower 164:Upper 165:Lower
  166:Upper 167:Lower 168:Upper 169:Lower 16A:Upper 16B:Lower 16C:Upper 16D:Lower 16E:Upper
  16F:Lower 170:Upper 171:Lower 172:Upper 173:Lower 174:Upper 175:Lower 176:Upper 177:Lower
  178:Upper 17A:Lower 17B:Upper 17C:Lower 17D:Upper 17E:Lower 181:Upper 183:Lower 184:Upper
  185:Lower 186:Upper 188:Lower 189:Upper 18C:Lower 18E:Upper 192:Lower 193:Upper 195:Lower
  196:Upper 199:Lower 19C:Upper 19E:Lower 19F:Upper 1A1:Lower 1A2:Upper 1A3:Lower 1A4:Upper
  1A5:Lower 1A6:Upper 1A8:Lower 1A9:Upper 1AA:Lower 1AC:Upper 1AD:Lower 1AE:Upper 1B0:Lower
  1B1:Upper 1B4:Lower 1B5:Upper 1B6:Lower 1B7:Upper 1B9:Lower 1BB:OLetter 1BC:Upper 1BD:Lower
  1C0:OLetter 1C4:Upper 1C6:Lower 1C7:Upper 1C9:Lower 1CA:Upper 1CC:Lower 1CD:Upper 1CE:Lower
  1CF:Upper 1D0:Lower 1D1:Upper 1D2:Lower 1D3:Upper 1D4:Lower 1D5:Upper 1D6:Lower 1D7:Upper
  1D8:Lower 1D9:Upper 1DA:Lower 1DB:Upper 1DC:Lower 1DE:Upper 1DF:Lower 1E0:Upper 1E1:Lower
  1E2:Upper 1E3:Lower 1E4:Upper 1E5:Lower 1E6:Upper 1E7:Lower 1E8:Upper 1E9:Lower 1EA:Upper
  1EB:Lower 1EC:Upper 1ED:Lower 1EE:Upper 1EF:Lower 1F1:Upper 1F3:Lower 1F4:Upper 1F5:Lower
  1F6:Upper 1F9:Lower 1FA:Upper 1FB:Lower 1FC:Upper 1FD:Lower 1FE:Upper 1FF:Lower 200:Upper
  201:Lower 202:Upper 203:Lower 204:Upper 205:Lower 206:Upper 207:Lower 208:Upper 209:Lower
  20A:Upper 20B:Lower 20C:Upper 20D:Lower 20E:Upper 20F:Lower 210:Upper 211:Lower 212:Upper
  213:Lower 214:Upper 215:Lower 216:Upper 217:Lower 218:Upper 219:Lower 21A:Upper 21B:Lower
  21C:Upper 21D:Lower 21E:Upper 21F:Lower 220:Upper 221:Lower 222:Upper 223:Lower 224:Upper
  225:Lower 226:Upper 227:Lower 228:Upper 229:Lower 22A:Upper 22B:Lower 22C:Upper 22D:Lower
  22E:Upper 22F:Lower 230:Upper 231:Lower 232:Upper 233:Lower 23A:Upper 23C:Lower 23D:Upper
  23F:Lower 241:Upper 242:Lower 243:Upper 247:Lower 248:Upper 249:Lower 24A:Upper 24B:Lower
  24C:Upper 24D:Lower 24E:Upper 24F:Lower 294:OLetter 295:Lower 2B9:OLetter 2C0:Lower 2C2:Other
  2C6:OLetter 2D2:Other 2E0:Lower 2E5:Other 2EC:OLetter 2ED:Other 2EE:OLetter 2EF:Other
  300:Extend 370:Upper 371:Lower 372:Upper 373:Lower 374:OLetter 375:Other 376:Upper 377:Lower
  378:Other 37A:Lower 37E:SContinue 37F:Upper 380:Other 386:Upper 387:Other 388:Upper 38B:Other
  38C:Upper 38D:Other 38E:Upper 390:Lower 391:Upper 3A2:Other 3A3:Upper 3AC:Lower 3CF:Upper
  3D0:Lower 3D2:Upper 3D5:Lower 3D8:Upper 3D9:Lower 3DA:Upper 3DB:Lower 3DC:Upper 3DD:Lower
  3DE:Upper 3DF:Lower 3E0:Upper 3E1:Lower 3E2:Upper 3E3:Lower 3E4:Upper 3E5:Lower 3E6:Upper
  3E7:Lower 3E8:Upper 3E9:Lower 3EA:Upper 3EB:Lower 3EC:Upper 3ED:Lower 3EE:Upper 3EF:Lower
  3F4:Upper 3F5:Lower 3F6:Other 3F7:Upper 3F8:Lower 3F9:Upper 3FB:Lower 3FD:Upper 430:Lower
  460:Upper 461:Lower 462:Upper 463:Lower 464:Upper 465:Lower 466:Upper 467:Lower 468:Upper
  469:Lower 46A:Upper 46B:Lower 46C:Upper 46D:Lower 46E:Upper 46F:Lower 470:Upper 471:Lower
  472:Upper 473:Lower 474:Upper 475:Lower 476:Upper 477:Lower 478:Upper 479:Lower 47A:Upper
  47B:Lower 47C:Upper 47D:Lower 47E:Upper 47F:Lower 480:Upper 481:Lower 482:Other 483:Extend
  48A:Upper 48B:Lower 48C:Upper 48D:Lower 48E:Upper 48F:Lower 490:Upper 491:Lower 492:Upper
  493:Lower 494:Upper 495:Lower 496:Upper 497:Lower 498:Upper 499:Lower 49A:Upper 49B:Lower
  49C:Upper 49D:Lower 49E:Upper 49F:Lower 4A0:Upper 4A1:Lower 4A2:Upper 4A3:Lower 4A4:Upper
  4A5:Lower 4A6:Upper 4A7:Lower 4A8:Upper 4A9:Lower 4AA:Upper 4AB:Lower 4AC:Upper 4AD:Lower
  4AE:Upper 4AF:Lower 4B0:Upper 4B1:Lower 4B2:Upper 4B3:Lower 4B4:Upper 4B5:Lower 4B6:Upper
  4B7:Lower 4B8:Upper 4B9:Lower 4BA:Upper 4BB:Lower 4BC:Upper 4BD:Lower 4BE:Upper 4BF:Lower
  4C0:Upper 4C2:Lower 4C3:Upper 4C4:Lower 4C5:Upper 4C6:Lower 4C7:Upper 4C8:Lower 4C9:Upper
  4CA:Lower 4CB:Upper 4CC:Lower 4CD:Upper 4CE:Lower 4D0:Upper 4D1:Lower 4D2:Upper 4D3:Lower
  4D4:Upper 4D5:Lower 4D6:Upper 4D7:Lower 4D8:Upper 4D9:Lower 4DA:Upper 4DB:Lower 4DC:Upper
  4DD:Lower 4DE:Upper 4DF:Lower 4E0:Upper 4E1:Lower 4E2:Upper 4E3:Lower 4E4:Upper 4E5:Lower
  4E6:Upper 4E7:Lower 4E8:Upper 4E9:Lower 4EA:Upper 4EB:Lower 4EC:Upper 4ED:Lower 4EE:Upper
  4EF:Lower 4F0:Upper 4F1:Lower 4F2:Upper 4F3:Lower 4F4:Upper 4F5:Lower 4F6:Upper 4F7:Lower
  4F8:Upper 4F9:Lower 4FA:Upper 4FB:Lower 4FC:Upper 4FD:Lower 4FE:Upper 4FF:Lower 500:Upper
  501:Lower 502:Upper 503:Lower 504:Upper 505:Lower 506:Upper 507:Lower 508:Upper 509:Lower
  50A:Upper 50B:Lower 50C:Upper 50D:Lower 50E:Upper 50F:Lower 510:Upper 511:Lower 512:Upper
  513:Lower 514:Upper 515:Lower 516:Upper 517:Lower 518:Upper 519:Lower 51A:Upper 51B:Lower
  51C:Upper 51D:Lower 51E:Upper 51F:Lower 520:Upper 521:Lower 522:Upper 523:Lower 524:Upper
  525:Lower 526:Upper 527:Lower 528:Upper 529:Lower 52A:Upper 52B:Lower 52C:Upper 52D:Lower
  52E:Upper 52F:Lower 530:Other 531:Upper 557:Other 559:OLetter 55A:Other 55D:SContinue
  55E:Other 560:Lower 589:STerm 58A:Other 591:Extend 5BE:Other 5BF:Extend 5C0:Other 5C1:Extend
  5C3:Other 5C4:Extend 5C6:Other 5C7:Extend 5C8:Other 5D0:OLetter 5EB:Other 5EF:OLetter
  5F4:Other 600:Numeric 606:Other 60C:SContinue 60E:Other 610:Extend 61B:Other 61C:Format
  61D:STerm 620:OLetter 64B:Extend 660:Numeric 66A:Other 66B:Numeric 66D:Other 66E:OLetter
  670:Extend 671:OLetter 6D4:STerm 6D5:OLetter 6D6:Extend 6DD:Numeric 6DE:Other 6DF:Extend
  6E5:OLetter 6E7:Extend 6E9:Other 6EA:Extend 6EE:OLetter 6F0:Numeric 6FA:OLetter 6FD:Other
  6FF:OLetter 700:STerm 703:Other 70F:Format 710:OLetter 711:Extend 712:OLetter 730:Extend
  74B:Other 74D:OLetter 7A6:Extend 7B1:OLetter 7B2:Other 7C0:Numeric 7CA:OLetter 7EB:Extend
  7F4:OLetter 7F6:Other 7F8:SContinue 7F9:STerm 7FA:OLetter 7FB:Other 7FD:Extend 7FE:Other
  800:OLetter 816:Extend 81A:OLetter 81B:Extend 824:OLetter 825:Extend 828:OLetter 829:Extend
  82E:Other 837:STerm 838:Other 839:STerm 83A:Other 83D:STerm 83F:Other 840:OLetter 859:Extend
  85C:Other 860:OLetter 86B:Other 870:OLetter 888:Other 889:OLetter 88F:Other 890:Numeric
  892:Other 897:Extend 8A0:OLetter 8CA:Extend 8E2:Numeric 8E3:Extend 904:OLetter 93A:Extend
  93D:OLetter 93E:Extend 950:OLetter 951:Extend 958:OLetter 962:Extend 964:STerm 966:Numeric
  970:Other 971:OLetter 981:Extend 984:Other 985:OLetter 98D:Other 98F:OLetter 991:Other
  993:OLetter 9A9:Other 9AA:OLetter 9B1:Other 9B2:OLetter 9B3:Other 9B6:OLetter 9BA:Other
  9BC:Extend 9BD:OLetter 9BE:Extend 9C5:Other 9C7:Extend 9C9:Other 9CB:Extend 9CE:OLetter
  9CF:Other 9D7:Extend 9D8:Other 9DC:OLetter 9DE:Other 9DF:OLetter 9E2:Extend 9E4:Other
  9E6:Numeric 9F0:OLetter 9F2:Other 9FC:OLetter 9FD:Other 9FE:Extend 9FF:Other A01:Extend
  A04:Other A05:OLetter A0B:Other A0F:OLetter A11:Other A13:OLetter A29:Other A2A:OLetter
  A31:Other A32:OLetter A34:Other A35:OLetter A37:Other A38:OLetter A3A:Other A3C:Extend
  A3D:Other A3E:Extend A43:Other A47:Extend A49:Other A4B:Extend A4E:Other A51:Extend A52:Other
  A59:OLetter A5D:Other A5E:OLetter A5F:Other A66:Numeric A70:Extend A72:OLetter A75:Extend
  A76:Other A81:Extend A84:Other A85:OLetter A8E:Other A8F:OLetter A92:Other A93:OLetter
  AA9:Other AAA:OLetter AB1:Other AB2:OLetter AB4:Other AB5:OLetter ABA:Other ABC:Extend
  ABD:OLetter ABE:Extend AC6:Other AC7:Extend ACA:Other ACB:Extend ACE:Other AD0:OLetter
  AD1:Other AE0:OLetter AE2:Extend AE4:Other AE6:Numeric AF0:Other AF9:OLetter AFA:Extend
  B00:Other B01:Extend B04:Other B05:OLetter B0D:Other B0F:OLetter B11:Other B13:OLetter
  B29:Other B2A:OLetter B31:Other B32:OLetter B34:Other B35:OLetter B3A:Other B3C:Extend
  B3D:OLetter B3E:Extend B45:Other B47:Extend B49:Other B4B:Extend B4E:Other B55:Extend
  B58:Other B5C:OLetter B5E:Other B5F:OLetter B62:Extend B64:Other B66:Numeric B70:Other
  B71:OLetter B72:Other B82:Extend B83:OLetter B84:Other B85:OLetter B8B:Other B8E:OLetter
  B91:Other B92:OLetter B96:Other B99:OLetter B9B:Other B9C:OLetter B9D:Other B9E:OLetter
  BA0:Other BA3:OLetter BA5:Other BA8:OLetter BAB:Other BAE:OLetter BBA:Other BBE:Extend
  BC3:Other BC6:Extend BC9:Other BCA:Extend BCE:Other BD0:OLetter BD1:Other BD7:Extend BD8:Other
  BE6:Numeric BF0:Other C00:Extend C05:OLetter C0D:Other C0E:OLetter C11:Other C12:OLetter
  C29:Other C2A:OLetter C3A:Other C3C:Extend C3D:OLetter C3E:Extend C45:Other C46:Extend
  C49:Other C4A:Extend C4E:Other C55:Extend C57:Other C58:OLetter C5B:Other C5D:OLetter
  C5E:Other C60:OLetter C62:Extend C64:Other C66:Numeric C70:Other C80:OLetter C81:Extend
  C84:Other C85:OLetter C8D:Other C8E:OLetter C91:Other C92:OLetter CA9:Other CAA:OLetter
  CB4:Other CB5:OLetter CBA:Other CBC:Extend CBD:OLetter CBE:Extend CC5:Other CC6:Extend
  CC9:Other CCA:Extend CCE:Other CD5:Extend CD7:Other CDD:OLetter CDF:Other CE0:OLetter
  CE2:Extend CE4:Other CE6:Numeric CF0:Other CF1:OLetter CF3:Extend CF4:Other D00:Extend
  D04:OLetter D0D:Other D0E:OLetter D11:Other D12:OLetter D3B:Extend D3D:OLetter D3E:Extend
  D45:Other D46:Extend D49:Other D4A:Extend D4E:OLetter D4F:Other D54:OLetter D57:Extend
  D58:Other D5F:OLetter D62:Extend D64:Other D66:Numeric D70:Other D7A:OLetter D80:Other
  D81:Extend D84:Other D85:OLetter D97:Other D9A:OLetter DB2:Other DB3:OLetter DBC:Other
  DBD:OLetter DBE:Other DC0:OLetter DC7:Other DCA:Extend DCB:Other DCF:Extend DD5:Other
  DD6:Extend DD7:Other DD8:Extend DE0:Other DE6:Numeric DF0:Other DF2:Extend DF4:Other
  E01:OLetter E31:Extend E32:OLetter E34:Extend E3B:Other E40:OLetter E47:Extend E4F:Other
  E50:Numeric E5A:Other E81:OLetter E83:Other E84:OLetter E85:Other E86:OLetter E8B:Other
  E8C:OLetter EA4:Other EA5:OLetter EA6:Other EA7:OLetter EB1:Extend EB2:OLetter EB4:Extend
  EBD:OLetter EBE:Other EC0:OLetter EC5:Other EC6:OLetter EC7:Other EC8:Extend ECF:Other
  ED0:Numeric EDA:Other EDC:OLetter EE0:Other F00:OLetter F01:Other F18:Extend F1A:Other
  F20:Numeric F2A:Other F35:Extend F36:Other F37:Extend F38:Other F39:Extend F3A:Close
  F3E:Extend F40:OLetter F48:Other F49:OLetter F6D:Other F71:Extend F85:Other F86:Extend
  F88:OLetter F8D:Extend F98:Other F99:Extend FBD:Other FC6:Extend FC7:Other 1000:OLetter
  102B:Extend 103F:OLetter 1040:Numeric 104A:STerm 104C:Other 1050:OLetter 1056:Extend
  105A:OLetter 105E:Extend 1061:OLetter 1062:Extend 1065:OLetter 1067:Extend 106E:OLetter
  1071:Extend 1075:OLetter 1082:Extend 108E:OLetter 108F:Extend 1090:Numeric 109A:Extend
  109E:Other 10A0:Upper 10C6:Other 10C7:Upper 10C8:Other 10CD:Upper 10CE:Other 10D0:OLetter
  10FB:Other 10FC:Lower 10FD:OLetter 1249:Other 124A:OLetter 124E:Other 1250:OLetter 1257:Other
  1258:OLetter 1259:Other 125A:OLetter 125E:Other 1260:OLetter 1289:Other 128A:OLetter
  128E:Other 1290:OLetter 12B1:Other 12B2:OLetter 12B6:Other 12B8:OLetter 12BF:Other
  12C0:OLetter 12C1:Other 12C2:OLetter 12C6:Other 12C8:OLetter 12D7:Other 12D8:OLetter
  1311:Other 1312:OLetter 1316:Other 1318:OLetter 135B:Other 135D:Extend 1360:Other 1362:STerm
  1363:Other 1367:STerm 1369:Other 1380:OLetter 1390:Other 13A0:Upper 13F6:Other 13F8:Lower
  13FE:Other 1401:OLetter 166D:Other 166E:STerm 166F:OLetter 1680:Sp 1681:OLetter 169B:Close
  169D:Other 16A0:OLetter 16EB:Other 16EE:OLetter 16F9:Other 1700:OLetter 1712:Extend 1716:Other
  171F:OLetter 1732:Extend 1735:STerm 1737:Other 1740:OLetter 1752:Extend 1754:Other
  1760:OLetter 176D:Other 176E:OLetter 1771:Other 1772:Extend 1774:Other 1780:OLetter
  17B4:Extend 17D4:STerm 17D6:Other 17D7:OLetter 17D8:Other 17DC:OLetter 17DD:Extend 17DE:Other
  17E0:Numeric 17EA:Other 1802:SContinue 1803:STerm 1804:Other 1808:SContinue 1809:STerm
  180A:Other 180B:Extend 180E:Format 180F:Extend 1810:Numeric 181A:Other 1820:OLetter 1879:Other
  1880:OLetter 1885:Extend 1887:OLetter 18A9:Extend 18AA:OLetter 18AB:Other 18B0:OLetter
  18F6:Other 1900:OLetter 191F:Other 1920:Extend 192C:Other 1930:Extend 193C:Other 1944:STerm
  1946:Numeric 1950:OLetter 196E:Other 1970:OLetter 1975:Other 1980:OLetter 19AC:Other
  19B0:OLetter 19CA:Other 19D0:Numeric 19DA:Other 1A00:OLetter 1A17:Extend 1A1C:Other
  1A20:OLetter 1A55:Extend 1A5F:Other 1A60:Extend 1A7D:Other 1A7F:Extend 1A80:Numeric 1A8A:Other
  1A90:Numeric 1A9A:Other 1AA7:OLetter 1AA8:STerm 1AAC:Other 1AB0:Extend 1ACF:Other 1B00:Extend
  1B05:OLetter 1B34:Extend 1B45:OLetter 1B4D:Other 1B4E:STerm 1B50:Numeric 1B5A:STerm 1B5C:Other
  1B5E:STerm 1B60:Other 1B6B:Extend 1B74:Other 1B7D:STerm 1B80:Extend 1B83:OLetter 1BA1:Extend
  1BAE:OLetter 1BB0:Numeric 1BBA:OLetter 1BE6:Extend 1BF4:Other 1C00:OLetter 1C24:Extend
  1C38:Other 1C3B:STerm 1C3D:Other 1C40:Numeric 1C4A:Other 1C4D:OLetter 1C50:Numeric
  1C5A:OLetter 1C7E:STerm 1C80:Lower 1C89:Upper 1C8A:Lower 1C8B:Other 1C90:OLetter 1CBB:Other
  1CBD:OLetter 1CC0:Other 1CD0:Extend 1CD3:Other 1CD4:Extend 1CE9:OLetter 1CED:Extend
  1CEE:OLetter 1CF4:Extend 1CF5:OLetter 1CF7:Extend 1CFA:OLetter 1CFB:Other 1D00:Lower
  1DC0:Extend 1E00:Upper 1E01:Lower 1E02:Upper 1E03:Lower 1E04:Upper 1E05:Lower 1E06:Upper
  1E07:Lower 1E08:Upper 1E09:Lower 1E0A:Upper 1E0B:Lower 1E0C:Upper 1E0D:Lower 1E0E:Upper
  1E0F:Lower 1E10:Upper 1E11:Lower 1E12:Upper 1E13:Lower 1E14:Upper 1E15:Lower 1E16:Upper
  1E17:Lower 1E18:Upper 1E19:Lower 1E1A:Upper 1E1B:Lower 1E1C:Upper 1E1D:Lower 1E1E:Upper
  1E1F:Lower 1E20:Upper 1E21:Lower 1E22:Upper 1E23:Lower 1E24:Upper 1E25:Lower 1E26:Upper
  1E27:Lower 1E28:Upper 1E29:Lower 1E2A:Upper 1E2B:Lower 1E2C:Upper 1E2D:Lower 1E2E:Upper
  1E2F:Lower 1E30:Upper 1E31:Lower 1E32:Upper 1E33:Lower 1E34:Upper 1E35:Lower 1E36:Upper
  1E37:Lower 1E38:Upper 1E39:Lower 1E3A:Upper 1E3B:Lower 1E3C:Upper 1E3D:Lower 1E3E:Upper
  1E3F:Lower 1E40:Upper 1E41:Lower 1E42:Upper 1E43:Lower 1E44:Upper 1E45:Lower 1E46:Upper
  1E47:Lower 1E48:Upper 1E49:Lower 1E4A:Upper 1E4B:Lower 1E4C:Upper 1E4D:Lower 1E4E:Upper
  1E4F:Lower 1E50:Upper 1E51:Lower 1E52:Upper 1E53:Lower 1E54:Upper 1E55:Lower 1E56:Upper
  1E57:Lower 1E58:Upper 1E59:Lower 1E5A:Upper 1E5B:Lower 1E5C:Upper 1E5D:Lower 1E5E:Upper
  1E5F:Lower 1E60:Upper 1E61:Lower 1E62:Upper 1E63:Lower 1E64:Upper 1E65:Lower 1E66:Upper
  1E67:Lower 1E68:Upper 1E69:Lower 1E6A:Upper 1E6B:Lower 1E6C:Upper 1E6D:Lower 1E6E:Upper
  1E6F:Lower 1E70:Upper 1E71:Lower 1E72:Upper 1E73:Lower 1E74:Upper 1E75:Lower 1E76:Upper
  1E77:Lower 1E78:Upper 1E79:Lower 1E7A:Upper 1E7B:Lower 1E7C:Upper 1E7D:Lower 1E7E:Upper
  1E7F:Lower 1E80:Upper 1E81:Lower 1E82:Upper 1E83:Lower 1E84:Upper 1E85:Lower 1E86:Upper
  1E87:Lower 1E88:Upper 1E89:Lower 1E8A:Upper 1E8B:Lower 1E8C:Upper 1E8D:Lower 1E8E:Upper
  1E8F:Lower 1E90:Upper 1E91:Lower 1E92:Upper 1E93:Lower 1E94:Upper 1E95:Lower 1E9E:Upper
  1E9F:Lower 1EA0:Upper 1EA1:Lower 1EA2:Upper 1EA3:Lower 1EA4:Upper 1EA5:Lower 1EA6:Upper
  1EA7:Lower 1EA8:Upper 1EA9:Lower 1EAA:Upper 1EAB:Lower 1EAC:Upper 1EAD:Lower 1EAE:Upper
  1EAF:Lower 1EB0:Upper 1EB1:Lower 1EB2:Upper 1EB3:Lower 1EB4:Upper 1EB5:Lower 1EB6:Upper
  1EB7:Lower 1EB8:Upper 1EB9:Lower 1EBA:Upper 1EBB:Lower 1EBC:Upper 1EBD:Lower 1EBE:Upper
  1EBF:Lower 1EC0:Upper 1EC1:Lower 1EC2:Upper 1EC3:Lower 1EC4:Upper 1EC5:Lower 1EC6:Upper
  1EC7:Lower 1EC8:Upper 1EC9:Lower 1ECA:Upper 1ECB:Lower 1ECC:Upper 1ECD:Lower 1ECE:Upper
  1ECF:Lower 1ED0:Upper 1ED1:Lower 1ED2:Upper 1ED3:Lower 1ED4:Upper 1ED5:Lower 1ED6:Upper
  1ED7:Lower 1ED8:Upper 1ED9:Lower 1EDA:Upper 1EDB:Lower 1EDC:Upper 1EDD:Lower 1EDE:Upper
  1EDF:Lower 1EE0:Upper 1EE1:Lower 1EE2:Upper 1EE3:Lower 1EE4:Upper 1EE5:Lower 1EE6:Upper
  1EE7:Lower 1EE8:Upper 1EE9:Lower 1EEA:Upper 1EEB:Lower 1EEC:Upper 1EED:Lower 1EEE:Upper
  1EEF:Lower 1EF0:Upper 1EF1:Lower 1EF2:Upper 1EF3:Lower 1EF4:Upper 1EF5:Lower 1EF6:Upper
  1EF7:Lower 1EF8:Upper 1EF9:Lower 1EFA:Upper 1EFB:Lower 1EFC:Upper 1EFD:Lower 1EFE:Upper
  1EFF:Lower 1F08:Upper 1F10:Lower 1F16:Other 1F18:Upper 1F1E:Other 1F20:Lower 1F28:Upper
  1F30:Lower 1F38:Upper 1F40:Lower 1F46:Other 1F48:Upper 1F4E:Other 1F50:Lower 1F58:Other
  1F59:Upper 1F5A:Other 1F5B:Upper 1F5C:Other 1F5D:Upper 1F5E:Other 1F5F:Upper 1F60:Lower
  1F68:Upper 1F70:Lower 1F7E:Other 1F80:Lower 1F88:Upper 1F90:Lower 1F98:Upper 1FA0:Lower
  1FA8:Upper 1FB0:Lower 1FB5:Other 1FB6:Lower 1FB8:Upper 1FBD:Other 1FBE:Lower 1FBF:Other
  1FC2:Lower 1FC5:Other 1FC6:Lower 1FC8:Upper 1FCD:Other 1FD0:Lower 1FD4:Other 1FD6:Lower
  1FD8:Upper 1FDC:Other 1FE0:Lower 1FE8:Upper 1FED:Other 1FF2:Lower 1FF5:Other 1FF6:Lower
  1FF8:Upper 1FFD:Other 2000:Sp 200B:Format 200C:Extend 200E:Format 2010:Other 2013:SContinue
  2015:Other 2018:Close 2020:Other 2024:ATerm 2025:Other 2028:Sep 202A:Format 202F:Sp 2030:Other
  2039:Close 203B:Other 203C:STerm 203E:Other 2045:Close 2047:STerm 204A:Other 205F:Sp
  2060:Format 2065:Other 2066:Format 2070:Other 2071:Lower 2072:Other 207D:Close 207F:Lower
  2080:Other 208D:Close 208F:Other 2090:Lower 209D:Other 20D0:Extend 20F1:Other 2102:Upper
  2103:Other 2107:Upper 2108:Other 210A:Lower 210B:Upper 210E:Lower 2110:Upper 2113:Lower
  2114:Other 2115:Upper 2116:Other 2119:Upper 211E:Other 2124:Upper 2125:Other 2126:Upper
  2127:Other 2128:Upper 2129:Other 212A:Upper 212E:Other 212F:Lower 2130:Upper 2134:Lower
  2135:OLetter 2139:Lower 213A:Other 213C:Lower 213E:Upper 2140:Other 2145:Upper 2146:Lower
  214A:Other 214E:Lower 214F:Other 2160:Upper 2170:Lower 2180:OLetter 2183:Upper 2184:Lower
  2185:OLetter 2189:Other 2308:Close 230C:Other 2329:Close 232B:Other 24B6:Upper 24D0:Lower
  24EA:Other 275B:Close 2761:Other 2768:Close 2776:Other 27C5:Close 27C7:Other 27E6:Close
  27F0:Other 2983:Close 2999:Other 29D8:Close 29DC:Other 29FC:Close 29FE:Other 2C00:Upper
  2C30:Lower 2C60:Upper 2C61:Lower 2C62:Upper 2C65:Lower 2C67:Upper 2C68:Lower 2C69:Upper
  2C6A:Lower 2C6B:Upper 2C6C:Lower 2C6D:Upper 2C71:Lower 2C72:Upper 2C73:Lower 2C75:Upper
  2C76:Lower 2C7E:Upper 2C81:Lower 2C82:Upper 2C83:Lower 2C84:Upper 2C85:Lower 2C86:Upper
  2C87:Lower 2C88:Upper 2C89:Lower 2C8A:Upper 2C8B:Lower 2C8C:Upper 2C8D:Lower 2C8E:Upper
  2C8F:Lower 2C90:Upper 2C91:Lower 2C92:Upper 2C93:Lower 2C94:Upper 2C95:Lower 2C96:Upper
  2C97:Lower 2C98:Upper 2C99:Lower 2C9A:Upper 2C9B:Lower 2C9C:Upper 2C9D:Lower 2C9E:Upper
  2C9F:Lower 2CA0:Upper 2CA1:Lower 2CA2:Upper 2CA3:Lower 2CA4:Upper 2CA5:Lower 2CA6:Upper
  2CA7:Lower 2CA8:Upper 2CA9:Lower 2CAA:Upper 2CAB:Lower 2CAC:Upper 2CAD:Lower 2CAE:Upper
  2CAF:Lower 2CB0:Upper 2CB1:Lower 2CB2:Upper 2CB3:Lower 2CB4:Upper 2CB5:Lower 2CB6:Upper
  2CB7:Lower 2CB8:Upper 2CB9:Lower 2CBA:Upper 2CBB:Lower 2CBC:Upper 2CBD:Lower 2CBE:Upper
  2CBF:Lower 2CC0:Upper 2CC1:Lower 2CC2:Upper 2CC3:Lower 2CC4:Upper 2CC5:Lower 2CC6:Upper
  2CC7:Lower 2CC8:Upper 2CC9:Lower 2CCA:Upper 2CCB:Lower 2CCC:Upper 2CCD:Lower 2CCE:Upper
  2CCF:Lower 2CD0:Upper 2CD1:Lower 2CD2:Upper 2CD3:Lower 2CD4:Upper 2CD5:Lower 2CD6:Upper
  2CD7:Lower 2CD8:Upper 2CD9:Lower 2CDA:Upper 2CDB:Lower 2CDC:Upper 2CDD:Lower 2CDE:Upper
  2CDF:Lower 2CE0:Upper 2CE1:Lower 2CE2:Upper 2CE3:Lower 2CE5:Other 2CEB:Upper 2CEC:Lower
  2CED:Upper 2CEE:Lower 2CEF:Extend 2CF2:Upper 2CF3:Lower 2CF4:Other 2CF9:STerm 2CFC:Other
  2D00:Lower 2D26:Other 2D27:Lower 2D28:Other 2D2D:Lower 2D2E:Other 2D30:OLetter 2D68:Other
  2D6F:OLetter 2D70:Other 2D7F:Extend 2D80:OLetter 2D97:Other 2DA0:OLetter 2DA7:Other
  2DA8:OLetter 2DAF:Other 2DB0:OLetter 2DB7:Other 2DB8:OLetter 2DBF:Other 2DC0:OLetter
  2DC7:Other 2DC8:OLetter 2DCF:Other 2DD0:OLetter 2DD7:Other 2DD8:OLetter 2DDF:Other 2DE0:Extend
  2E00:Close 2E0E:Other 2E1C:Close 2E1E:Other 2E20:Close 2E2A:Other 2E2E:STerm 2E2F:OLetter
  2E30:Other 2E3C:STerm 2E3D:Other 2E42:Close 2E43:Other 2E53:STerm 2E55:Close 2E5D:Other
  3000:Sp 3001:SContinue 3002:STerm 3003:Other 3005:OLetter 3008:Close 3012:Other 3014:Close
  301C:Other 301D:Close 3020:Other 3021:OLetter 302A:Extend 3030:Other 3031:OLetter 3036:Other
  3038:OLetter 303D:Other 3041:OLetter 3097:Other 3099:Extend 309B:Other 309D:OLetter 30A0:Other
  30A1:OLetter 30FB:Other 30FC:OLetter 3100:Other 3105:OLetter 3130:Other 3131:OLetter
  318F:Other 31A0:OLetter 31C0:Other 31F0:OLetter 3200:Other 3400:OLetter 4DC0:Other
  4E00:OLetter A48D:Other A4D0:OLetter A4FE:Other A4FF:STerm A500:OLetter A60D:Other A60E:STerm
  A610:OLetter A620:Numeric A62A:OLetter A62C:Other A640:Upper A641:Lower A642:Upper A643:Lower
  A644:Upper A645:Lower A646:Upper A647:Lower A648:Upper A649:Lower A64A:Upper A64B:Lower
  A64C:Upper A64D:Lower A64E:Upper A64F:Lower A650:Upper A651:Lower A652:Upper A653:Lower
  A654:Upper A655:Lower A656:Upper A657:Lower A658:Upper A659:Lower A65A:Upper A65B:Lower
  A65C:Upper A65D:Lower A65E:Upper A65F:Lower A660:Upper A661:Lower A662:Upper A663:Lower
  A664:Upper A665:Lower A666:Upper A667:Lower A668:Upper A669:Lower A66A:Upper A66B:Lower
  A66C:Upper A66D:Lower A66E:OLetter A66F:Extend A673:Other A674:Extend A67E:Other A67F:OLetter
  A680:Upper A681:Lower A682:Upper A683:Lower A684:Upper A685:Lower A686:Upper A687:Lower
  A688:Upper A689:Lower A68A:Upper A68B:Lower A68C:Upper A68D:Lower A68E:Upper A68F:Lower
  A690:Upper A691:Lower A692:Upper A693:Lower A694:Upper A695:Lower A696:Upper A697:Lower
  A698:Upper A699:Lower A69A:Upper A69B:Lower A69E:Extend A6A0:OLetter A6F0:Extend A6F2:Other
  A6F3:STerm A6F4:Other A6F7:STerm A6F8:Other A717:OLetter A720:Other A722:Upper A723:Lower
  A724:Upper A725:Lower A726:Upper A727:Lower A728:Upper A729:Lower A72A:Upper A72B:Lower
  A72C:Upper A72D:Lower A72E:Upper A72F:Lower A732:Upper A733:Lower A734:Upper A735:Lower
  A736:Upper A737:Lower A738:Upper A739:Lower A73A:Upper A73B:Lower A73C:Upper A73D:Lower
  A73E:Upper A73F:Lower A740:Upper A741:Lower A742:Upper A743:Lower A744:Upper A745:Lower
  A746:Upper A747:Lower A748:Upper A749:Lower A74A:Upper A74B:Lower A74C:Upper A74D:Lower
  A74E:Upper A74F:Lower A750:Upper A751:Lower A752:Upper A753:Lower A754:Upper A755:Lower
  A756:Upper A757:Lower A758:Upper A759:Lower A75A:Upper A75B:Lower A75C:Upper A75D:Lower
  A75E:Upper A75F:Lower A760:Upper A761:Lower A762:Upper A763:Lower A764:Upper A765:Lower
  A766:Upper A767:Lower A768:Upper A769:Lower A76A:Upper A76B:Lower A76C:Upper A76D:Lower
  A76E:Upper A76F:Lower A779:Upper A77A:Lower A77B:Upper A77C:Lower A77D:Upper A77F:Lower
  A780:Upper A781:Lower A782:Upper A783:Lower A784:Upper A785:Lower A786:Upper A787:Lower
  A788:OLetter A789:Other A78B:Upper A78C:Lower A78D:Upper A78E:Lower A78F:OLetter A790:Upper
  A791:Lower A792:Upper A793:Lower A796:Upper A797:Lower A798:Upper A799:Lower A79A:Upper
  A79B:Lower A79C:Upper A79D:Lower A79E:Upper A79F:Lower A7A0:Upper A7A1:Lower A7A2:Upper
  A7A3:Lower A7A4:Upper A7A5:Lower A7A6:Upper A7A7:Lower A7A8:Upper A7A9:Lower A7AA:Upper
  A7AF:Lower A7B0:Upper A7B5:Lower A7B6:Upper A7B7:Lower A7B8:Upper A7B9:Lower A7BA:Upper
  A7BB:Lower A7BC:Upper A7BD:Lower A7BE:Upper A7BF:Lower A7C0:Upper A7C1:Lower A7C2:Upper
  A7C3:Lower A7C4:Upper A7C8:Lower A7C9:Upper A7CA:Lower A7CB:Upper A7CD:Lower A7CE:Other
  A7D0:Upper A7D1:Lower A7D2:Other A7D3:Lower A7D4:Other A7D5:Lower A7D6:Upper A7D7:Lower
  A7D8:Upper A7D9:Lower A7DA:Upper A7DB:Lower A7DC:Upper A7DD:Other A7F2:Lower A7F5:Upper
  A7F6:Lower A7F7:OLetter A7F8:Lower A7FB:OLetter A802:Extend A803:OLetter A806:Extend
  A807:OLetter A80B:Extend A80C:OLetter A823:Extend A828:Other A82C:Extend A82D:Other
  A840:OLetter A874:Other A876:STerm A878:Other A880:Extend A882:OLetter A8B4:Extend A8C6:Other
  A8CE:STerm A8D0:Numeric A8DA:Other A8E0:Extend A8F2:OLetter A8F8:Other A8FB:OLetter A8FC:Other
  A8FD:OLetter A8FF:Extend A900:Numeric A90A:OLetter A926:Extend A92E:Other A92F:STerm
  A930:OLetter A947:Extend A954:Other A960:OLetter A97D:Other A980:Extend A984:OLetter
  A9B3:Extend A9C1:Other A9C8:STerm A9CA:Other A9CF:OLetter A9D0:Numeric A9DA:Other A9E0:OLetter
  A9E5:Extend A9E6:OLetter A9F0:Numeric A9FA:OLetter A9FF:Other AA00:OLetter AA29:Extend
  AA37:Other AA40:OLetter AA43:Extend AA44:OLetter AA4C:Extend AA4E:Other AA50:Numeric
  AA5A:Other AA5D:STerm AA60:OLetter AA77:Other AA7A:OLetter AA7B:Extend AA7E:OLetter
  AAB0:Extend AAB1:OLetter AAB2:Extend AAB5:OLetter AAB7:Extend AAB9:OLetter AABE:Extend
  AAC0:OLetter AAC1:Extend AAC2:OLetter AAC3:Other AADB:OLetter AADE:Other AAE0:OLetter
  AAEB:Extend AAF0:STerm AAF2:OLetter AAF5:Extend AAF7:Other AB01:OLetter AB07:Other
  AB09:OLetter AB0F:Other AB11:OLetter AB17:Other AB20:OLetter AB27:Other AB28:OLetter
  AB2F:Other AB30:Lower AB5B:Other AB5C:Lower AB6A:Other AB70:Lower ABC0:OLetter ABE3:Extend
  ABEB:STerm ABEC:Extend ABEE:Other ABF0:Numeric ABFA:Other AC00:OLetter D7A4:Other D7B0:OLetter
  D7C7:Other D7CB:OLetter D7FC:Other F900:OLetter FA6E:Other FA70:OLetter FADA:Other FB00:Lower
  FB07:Other FB13:Lower FB18:Other FB1D:OLetter FB1E:Extend FB1F:OLetter FB29:Other FB2A:OLetter
  FB37:Other FB38:OLetter FB3D:Other FB3E:OLetter FB3F:Other FB40:OLetter FB42:Other
  FB43:OLetter FB45:Other FB46:OLetter FBB2:Other FBD3:OLetter FD3E:Close FD40:Other
  FD50:OLetter FD90:Other FD92:OLetter FDC8:Other FDF0:OLetter FDFC:Other FE00:Extend
  FE10:SContinue FE12:STerm FE13:SContinue FE15:STerm FE17:Close FE19:Other FE20:Extend
  FE30:Other FE31:SContinue FE33:Other FE35:Close FE45:Other FE47:Close FE49:Other
  FE50:SContinue FE52:ATerm FE53:Other FE54:SContinue FE56:STerm FE58:SContinue FE59:Close
  FE5F:Other FE63:SContinue FE64:Other FE70:OLetter FE75:Other FE76:OLetter FEFD:Other
  FEFF:Format FF00:Other FF01:STerm FF02:Other FF08:Close FF0A:Other FF0C:SContinue FF0E:ATerm
  FF0F:Other FF10:Numeric FF1A:SContinue FF1C:Other FF1F:STerm FF20:Other FF21:Upper FF3B:Close
  FF3C:Other FF3D:Close FF3E:Other FF41:Lower FF5B:Close FF5C:Other FF5D:Close FF5E:Other
  FF5F:Close FF61:STerm FF62:Close FF64:SContinue FF65:Other FF66:OLetter FF9E:Extend
  FFA0:OLetter FFBF:Other FFC2:OLetter FFC8:Other FFCA:OLetter FFD0:Other FFD2:OLetter
  FFD8:Other FFDA:OLetter FFDD:Other FFF9:Format FFFC:Other 10000:OLetter 1000C:Other
  1000D:OLetter 10027:Other 10028:OLetter 1003B:Other 1003C:OLetter 1003E:Other 1003F:OLetter
  1004E:Other 10050:OLetter 1005E:Other 10080:OLetter 100FB:Other 10140:OLetter 10175:Other
  101FD:Extend 101FE:Other 10280:OLetter 1029D:Other 102A0:OLetter 102D1:Other 102E0:Extend
  102E1:Other 10300:OLetter 10320:Other 1032D:OLetter 1034B:Other 10350:OLetter 10376:Extend
  1037B:Other 10380:OLetter 1039E:Other 103A0:OLetter 103C4:Other 103C8:OLetter 103D0:Other
  103D1:OLetter 103D6:Other 10400:Upper 10428:Lower 10450:OLetter 1049E:Other 104A0:Numeric
  104AA:Other 104B0:Upper 104D4:Other 104D8:Lower 104FC:Other 10500:OLetter 10528:Other
  10530:OLetter 10564:Other 10570:Upper 1057B:Other 1057C:Upper 1058B:Other 1058C:Upper
  10593:Other 10594:Upper 10596:Other 10597:Lower 105A2:Other 105A3:Lower 105B2:Other
  105B3:Lower 105BA:Other 105BB:Lower 105BD:Other 105C0:OLetter 105F4:Other 10600:OLetter
  10737:Other 10740:OLetter 10756:Other 10760:OLetter 10768:Other 10780:Lower 10781:OLetter
  10783:Lower 10786:Other 10787:Lower 107B1:Other 107B2:Lower 107BB:Other 10800:OLetter
  10806:Other 10808:OLetter 10809:Other 1080A:OLetter 10836:Other 10837:OLetter 10839:Other
  1083C:OLetter 1083D:Other 1083F:OLetter 10856:Other 10860:OLetter 10877:Other 10880:OLetter
  1089F:Other 108E0:OLetter 108F3:Other 108F4:OLetter 108F6:Other 10900:OLetter 10916:Other
  10920:OLetter 1093A:Other 10980:OLetter 109B8:Other 109BE:OLetter 109C0:Other 10A00:OLetter
  10A01:Extend 10A04:Other 10A05:Extend 10A07:Other 10A0C:Extend 10A10:OLetter 10A14:Other
  10A15:OLetter 10A18:Other 10A19:OLetter 10A36:Other 10A38:Extend 10A3B:Other 10A3F:Extend
  10A40:Other 10A56:STerm 10A58:Other 10A60:OLetter 10A7D:Other 10A80:OLetter 10A9D:Other
  10AC0:OLetter 10AC8:Other 10AC9:OLetter 10AE5:Extend 10AE7:Other 10B00:OLetter 10B36:Other
  10B40:OLetter 10B56:Other 10B60:OLetter 10B73:Other 10B80:OLetter 10B92:Other 10C00:OLetter
  10C49:Other 10C80:Upper 10CB3:Other 10CC0:Lower 10CF3:Other 10D00:OLetter 10D24:Extend
  10D28:Other 10D30:Numeric 10D3A:Other 10D40:Numeric 10D4A:OLetter 10D50:Upper 10D66:Other
  10D69:Extend 10D6E:Other 10D6F:OLetter 10D70:Lower 10D86:Other 10E80:OLetter 10EAA:Other
  10EAB:Extend 10EAD:Other 10EB0:OLetter 10EB2:Other 10EC2:OLetter 10EC5:Other 10EFC:Extend
  10F00:OLetter 10F1D:Other 10F27:OLetter 10F28:Other 10F30:OLetter 10F46:Extend 10F51:Other
  10F55:STerm 10F5A:Other 10F70:OLetter 10F82:Extend 10F86:STerm 10F8A:Other 10FB0:OLetter
  10FC5:Other 10FE0:OLetter 10FF7:Other 11000:Extend 11003:OLetter 11038:Extend 11047:STerm
  11049:Other 11066:Numeric 11070:Extend 11071:OLetter 11073:Extend 11075:OLetter 11076:Other
  1107F:Extend 11083:OLetter 110B0:Extend 110BB:Other 110BD:Numeric 110BE:STerm 110C2:Extend
  110C3:Other 110CD:Numeric 110CE:Other 110D0:OLetter 110E9:Other 110F0:Numeric 110FA:Other
  11100:Extend 11103:OLetter 11127:Extend 11135:Other 11136:Numeric 11140:Other 11141:STerm
  11144:OLetter 11145:Extend 11147:OLetter 11148:Other 11150:OLetter 11173:Extend 11174:Other
  11176:OLetter 11177:Other 11180:Extend 11183:OLetter 111B3:Extend 111C1:OLetter 111C5:STerm
  111C7:Other 111C9:Extend 111CD:STerm 111CE:Extend 111D0:Numeric 111DA:OLetter 111DB:Other
  111DC:OLetter 111DD:Other 111DE:STerm 111E0:Other 11200:OLetter 11212:Other 11213:OLetter
  1122C:Extend 11238:STerm 1123A:Other 1123B:STerm 1123D:Other 1123E:Extend 1123F:OLetter
  11241:Extend 11242:Other 11280:OLetter 11287:Other 11288:OLetter 11289:Other 1128A:OLetter
  1128E:Other 1128F:OLetter 1129E:Other 1129F:OLetter 112A9:STerm 112AA:Other 112B0:OLetter
  112DF:Extend 112EB:Other 112F0:Numeric 112FA:Other 11300:Extend 11304:Other 11305:OLetter
  1130D:Other 1130F:OLetter 11311:Other 11313:OLetter 11329:Other 1132A:OLetter 11331:Other
  11332:OLetter 11334:Other 11335:OLetter 1133A:Other 1133B:Extend 1133D:OLetter 1133E:Extend
  11345:Other 11347:Extend 11349:Other 1134B:Extend 1134E:Other 11350:OLetter 11351:Other
  11357:Extend 11358:Other 1135D:OLetter 11362:Extend 11364:Other 11366:Extend 1136D:Other
  11370:Extend 11375:Other 11380:OLetter 1138A:Other 1138B:OLetter 1138C:Other 1138E:OLetter
  1138F:Other 11390:OLetter 113B6:Other 113B7:OLetter 113B8:Extend 113C1:Other 113C2:Extend
  113C3:Other 113C5:Extend 113C6:Other 113C7:Extend 113CB:Other 113CC:Extend 113D1:OLetter
  113D2:Extend 113D3:OLetter 113D4:STerm 113D6:Other 113E1:Extend 113E3:Other 11400:OLetter
  11435:Extend 11447:OLetter 1144B:STerm 1144D:Other 11450:Numeric 1145A:Other 1145E:Extend
  1145F:OLetter 11462:Other 11480:OLetter 114B0:Extend 114C4:OLetter 114C6:Other 114C7:OLetter
  114C8:Other 114D0:Numeric 114DA:Other 11580:OLetter 115AF:Extend 115B6:Other 115B8:Extend
  115C1:Other 115C2:STerm 115C4:Other 115C9:STerm 115D8:OLetter 115DC:Extend 115DE:Other
  11600:OLetter 11630:Extend 11641:STerm 11643:Other 11644:OLetter 11645:Other 11650:Numeric
  1165A:Other 11680:OLetter 116AB:Extend 116B8:OLetter 116B9:Other 116C0:Numeric 116CA:Other
  116D0:Numeric 116E4:Other 11700:OLetter 1171B:Other 1171D:Extend 1172C:Other 11730:Numeric
  1173A:Other 1173C:STerm 1173F:Other 11740:OLetter 11747:Other 11800:OLetter 1182C:Extend
  1183B:Other 118A0:Upper 118C0:Lower 118E0:Numeric 118EA:Other 118FF:OLetter 11907:Other
  11909:OLetter 1190A:Other 1190C:OLetter 11914:Other 11915:OLetter 11917:Other 11918:OLetter
  11930:Extend 11936:Other 11937:Extend 11939:Other 1193B:Extend 1193F:OLetter 11940:Extend
  11941:OLetter 11942:Extend 11944:STerm 11945:Other 11946:STerm 11947:Other 11950:Numeric
  1195A:Other 119A0:OLetter 119A8:Other 119AA:OLetter 119D1:Extend 119D8:Other 119DA:Extend
  119E1:OLetter 119E2:Other 119E3:OLetter 119E4:Extend 119E5:Other 11A00:OLetter 11A01:Extend
  11A0B:OLetter 11A33:Extend 11A3A:OLetter 11A3B:Extend 11A3F:Other 11A42:STerm 11A44:Other
  11A47:Extend 11A48:Other 11A50:OLetter 11A51:Extend 11A5C:OLetter 11A8A:Extend 11A9A:Other
  11A9B:STerm 11A9D:OLetter 11A9E:Other 11AB0:OLetter 11AF9:Other 11BC0:OLetter 11BE1:Other
  11BF0:Numeric 11BFA:Other 11C00:OLetter 11C09:Other 11C0A:OLetter 11C2F:Extend 11C37:Other
  11C38:Extend 11C40:OLetter 11C41:STerm 11C43:Other 11C50:Numeric 11C5A:Other 11C72:OLetter
  11C90:Other 11C92:Extend 11CA8:Other 11CA9:Extend 11CB7:Other 11D00:OLetter 11D07:Other
  11D08:OLetter 11D0A:Other 11D0B:OLetter 11D31:Extend 11D37:Other 11D3A:Extend 11D3B:Other
  11D3C:Extend 11D3E:Other 11D3F:Extend 11D46:OLetter 11D47:Extend 11D48:Other 11D50:Numeric
  11D5A:Other 11D60:OLetter 11D66:Other 11D67:OLetter 11D69:Other 11D6A:OLetter 11D8A:Extend
  11D8F:Other 11D90:Extend 11D92:Other 11D93:Extend 11D98:OLetter 11D99:Other 11DA0:Numeric
  11DAA:Other 11EE0:OLetter 11EF3:Extend 11EF7:STerm 11EF9:Other 11F00:Extend 11F02:OLetter
  11F03:Extend 11F04:OLetter 11F11:Other 11F12:OLetter 11F34:Extend 11F3B:Other 11F3E:Extend
  11F43:STerm 11F45:Other 11F50:Numeric 11F5A:Extend 11F5B:Other 11FB0:OLetter 11FB1:Other
  12000:OLetter 1239A:Other 12400:OLetter 1246F:Other 12480:OLetter 12544:Other 12F90:OLetter
  12FF1:Other 13000:OLetter 13430:Format 13440:Extend 13441:OLetter 13447:Extend 13456:Other
  13460:OLetter 143FB:Other 14400:OLetter 14647:Other 16100:OLetter 1611E:Extend 16130:Numeric
  1613A:Other 16800:OLetter 16A39:Other 16A40:OLetter 16A5F:Other 16A60:Numeric 16A6A:Other
  16A6E:STerm 16A70:OLetter 16ABF:Other 16AC0:Numeric 16ACA:Other 16AD0:OLetter 16AEE:Other
  16AF0:Extend 16AF5:STerm 16AF6:Other 16B00:OLetter 16B30:Extend 16B37:STerm 16B39:Other
  16B40:OLetter 16B44:STerm 16B45:Other 16B50:Numeric 16B5A:Other 16B63:OLetter 16B78:Other
  16B7D:OLetter 16B90:Other 16D40:OLetter 16D6D:Other 16D6E:STerm 16D70:Numeric 16D7A:Other
  16E40:Upper 16E60:Lower 16E80:Other 16E98:STerm 16E99:Other 16F00:OLetter 16F4B:Other
  16F4F:Extend 16F50:OLetter 16F51:Extend 16F88:Other 16F8F:Extend 16F93:OLetter 16FA0:Other
  16FE0:OLetter 16FE2:Other 16FE3:OLetter 16FE4:Extend 16FE5:Other 16FF0:Extend 16FF2:Other
  17000:OLetter 187F8:Other 18800:OLetter 18CD6:Other 18CFF:OLetter 18D09:Other 1AFF0:OLetter
  1AFF4:Other 1AFF5:OLetter 1AFFC:Other 1AFFD:OLetter 1AFFF:Other 1B000:OLetter 1B123:Other
  1B132:OLetter 1B133:Other 1B150:OLetter 1B153:Other 1B155:OLetter 1B156:Other 1B164:OLetter
  1B168:Other 1B170:OLetter 1B2FC:Other 1BC00:OLetter 1BC6B:Other 1BC70:OLetter 1BC7D:Other
  1BC80:OLetter 1BC89:Other 1BC90:OLetter 1BC9A:Other 1BC9D:Extend 1BC9F:STerm 1BCA0:Format
  1BCA4:Other 1CCF0:Numeric 1CCFA:Other 1CF00:Extend 1CF2E:Other 1CF30:Extend 1CF47:Other
  1D165:Extend 1D16A:Other 1D16D:Extend 1D173:Format 1D17B:Extend 1D183:Other 1D185:Extend
  1D18C:Other 1D1AA:Extend 1D1AE:Other 1D242:Extend 1D245:Other 1D400:Upper 1D41A:Lower
  1D434:Upper 1D44E:Lower 1D455:Other 1D456:Lower 1D468:Upper 1D482:Lower 1D49C:Upper
  1D49D:Other 1D49E:Upper 1D4A0:Other 1D4A2:Upper 1D4A3:Other 1D4A5:Upper 1D4A7:Other
  1D4A9:Upper 1D4AD:Other 1D4AE:Upper 1D4B6:Lower 1D4BA:Other 1D4BB:Lower 1D4BC:Other
  1D4BD:Lower 1D4C4:Other 1D4C5:Lower 1D4D0:Upper 1D4EA:Lower 1D504:Upper 1D506:Other
  1D507:Upper 1D50B:Other 1D50D:Upper 1D515:Other 1D516:Upper 1D51D:Other 1D51E:Lower
  1D538:Upper 1D53A:Other 1D53B:Upper 1D53F:Other 1D540:Upper 1D545:Other 1D546:Upper
  1D547:Other 1D54A:Upper 1D551:Other 1D552:Lower 1D56C:Upper 1D586:Lower 1D5A0:Upper
  1D5BA:Lower 1D5D4:Upper 1D5EE:Lower 1D608:Upper 1D622:Lower 1D63C:Upper 1D656:Lower
  1D670:Upper 1D68A:Lower 1D6A6:Other 1D6A8:Upper 1D6C1:Other 1D6C2:Lower 1D6DB:Other
  1D6DC:Lower 1D6E2:Upper 1D6FB:Other 1D6FC:Lower 1D715:Other 1D716:Lower 1D71C:Upper
  1D735:Other 1D736:Lower 1D74F:Other 1D750:Lower 1D756:Upper 1D76F:Other 1D770:Lower
  1D789:Other 1D78A:Lower 1D790:Upper 1D7A9:Other 1D7AA:Lower 1D7C3:Other 1D7C4:Lower
  1D7CA:Upper 1D7CB:Lower 1D7CC:Other 1D7CE:Numeric 1D800:Other 1DA00:Extend 1DA37:Other
  1DA3B:Extend 1DA6D:Other 1DA75:Extend 1DA76:Other 1DA84:Extend 1DA85:Other 1DA88:STerm
  1DA89:Other 1DA9B:Extend 1DAA0:Other 1DAA1:Extend 1DAB0:Other 1DF00:Lower 1DF0A:OLetter
  1DF0B:Lower 1DF1F:Other 1DF25:Lower 1DF2B:Other 1E000:Extend 1E007:Other 1E008:Extend
  1E019:Other 1E01B:Extend 1E022:Other 1E023:Extend 1E025:Other 1E026:Extend 1E02B:Other
  1E030:Lower 1E06E:Other 1E08F:Extend 1E090:Other 1E100:OLetter 1E12D:Other 1E130:Extend
  1E137:OLetter 1E13E:Other 1E140:Numeric 1E14A:Other 1E14E:OLetter 1E14F:Other 1E290:OLetter
  1E2AE:Extend 1E2AF:Other 1E2C0:OLetter 1E2EC:Extend 1E2F0:Numeric 1E2FA:Other 1E4D0:OLetter
  1E4EC:Extend 1E4F0:Numeric 1E4FA:Other 1E5D0:OLetter 1E5EE:Extend 1E5F0:OLetter 1E5F1:Numeric
  1E5FB:Other 1E7E0:OLetter 1E7E7:Other 1E7E8:OLetter 1E7EC:Other 1E7ED:OLetter 1E7EF:Other
  1E7F0:OLetter 1E7FF:Other 1E800:OLetter 1E8C5:Other 1E8D0:Extend 1E8D7:Other 1E900:Upper
  1E922:Lower 1E944:Extend 1E94B:OLetter 1E94C:Other 1E950:Numeric 1E95A:Other 1EE00:OLetter
  1EE04:Other 1EE05:OLetter 1EE20:Other 1EE21:OLetter 1EE23:Other 1EE24:OLetter 1EE25:Other
  1EE27:OLetter 1EE28:Other 1EE29:OLetter 1EE33:Other 1EE34:OLetter 1EE38:Other 1EE39:OLetter
  1EE3A:Other 1EE3B:OLetter 1EE3C:Other 1EE42:OLetter 1EE43:Other 1EE47:OLetter 1EE48:Other
  1EE49:OLetter 1EE4A:Other 1EE4B:OLetter 1EE4C:Other 1EE4D:OLetter 1EE50:Other 1EE51:OLetter
  1EE53:Other 1EE54:OLetter 1EE55:Other 1EE57:OLetter 1EE58:Other 1EE59:OLetter 1EE5A:Other
  1EE5B:OLetter 1EE5C:Other 1EE5D:OLetter 1EE5E:Other 1EE5F:OLetter 1EE60:Other 1EE61:OLetter
  1EE63:Other 1EE64:OLetter 1EE65:Other 1EE67:OLetter 1EE6B:Other 1EE6C:OLetter 1EE73:Other
  1EE74:OLetter 1EE78:Other 1EE79:OLetter 1EE7D:Other 1EE7E:OLetter 1EE7F:Other 1EE80:OLetter
  1EE8A:Other 1EE8B:OLetter 1EE9C:Other 1EEA1:OLetter 1EEA4:Other 1EEA5:OLetter 1EEAA:Other
  1EEAB:OLetter 1EEBC:Other 1F130:Upper 1F14A:Other 1F150:Upper 1F16A:Other 1F170:Upper
  1F18A:Other 1F676:Close 1F679:Other 1FBF0:Numeric 1FBFA:Other 20000:OLetter 2A6E0:Other
  2A700:OLetter 2B73A:Other 2B740:OLetter 2B81E:Other 2B820:OLetter 2CEA2:Other 2CEB0:OLetter
  2EBE1:Other 2EBF0:OLetter 2EE5E:Other 2F800:OLetter 2FA1E:Other 30000:OLetter 3134B:Other
  31350:OLetter 323B0:Other E0001:Format E0002:Other E0020:Extend E0080:Other E0100:Extend
  E01F0:Other"

/-- The names of the roles in breaks between sentences, and the role each stands for. -/
def sentenceBreakNames : Aliases := Aliases.ofText
  "at:ATerm aterm:ATerm cl:Close close:Close cr:CR ex:Extend extend:Extend fo:Format
  format:Format le:OLetter oletter:OLetter lf:LF lo:Lower lower:Lower nu:Numeric numeric:Numeric
  sc:SContinue scontinue:SContinue se:Sep sep:Sep sp:Sp st:STerm sterm:STerm up:Upper
  upper:Upper"

end CaseMatch.Unicode
