import FieldOrder.Text.CodeTable

namespace FieldOrder.Text

def alphanumericRows : List Nat := [
  0x0000AA_0000AA_0000B2_0000B3_0000B5_0000B5_0000B9_0000BA_0000BC_0000BE_0000C0_0000D6,
  0x0000D8_0000F6_0000F8_0002C1_0002C6_0002D1_0002E0_0002E4_0002EC_1002EE_000370_000374,
  0x000376_000377_00037A_00037D_00037F_00037F_000386_000386_000388_00038A_00038C_00038C,
  0x00038E_0003A1_0003A3_0003F5_0003F7_000481_00048A_00052F_000531_000556_000559_000559,
  0x000560_000588_0005D0_0005EA_0005EF_0005F2_000620_00064A_000660_000669_00066E_00066F,
  0x000671_0006D3_0006D5_0006D5_0006E5_0006E6_0006EE_0006FC_0006FF_0006FF_000710_000710,
  0x000712_00072F_00074D_0007A5_0007B1_0007B1_0007C0_0007EA_0007F4_0007F5_0007FA_0007FA,
  0x000800_000815_00081A_00081A_000824_000824_000828_000828_000840_000858_000860_00086A,
  0x000870_000887_000889_00088E_0008A0_0008C9_000904_000939_00093D_00093D_000950_000950,
  0x000958_000961_000966_00096F_000971_000980_000985_00098C_00098F_000990_000993_0009A8,
  0x0009AA_0009B0_0009B2_0009B2_0009B6_0009B9_0009BD_0009BD_0009CE_0009CE_0009DC_0009DD,
  0x0009DF_0009E1_0009E6_0009F1_0009F4_0009F9_0009FC_0009FC_000A05_000A0A_000A0F_000A10,
  0x000A13_000A28_000A2A_000A30_000A32_000A33_000A35_000A36_000A38_000A39_000A59_000A5C,
  0x000A5E_000A5E_000A66_000A6F_000A72_000A74_000A85_000A8D_000A8F_000A91_000A93_000AA8,
  0x000AAA_000AB0_000AB2_000AB3_000AB5_000AB9_000ABD_000ABD_000AD0_000AD0_000AE0_000AE1,
  0x000AE6_000AEF_000AF9_000AF9_000B05_000B0C_000B0F_000B10_000B13_000B28_000B2A_000B30,
  0x000B32_000B33_000B35_000B39_000B3D_000B3D_000B5C_000B5D_000B5F_000B61_000B66_000B6F,
  0x000B71_000B77_000B83_000B83_000B85_000B8A_000B8E_000B90_000B92_000B95_000B99_000B9A,
  0x000B9C_000B9C_000B9E_000B9F_000BA3_000BA4_000BA8_000BAA_000BAE_000BB9_000BD0_000BD0,
  0x000BE6_000BF2_000C05_000C0C_000C0E_000C10_000C12_000C28_000C2A_000C39_000C3D_000C3D,
  0x000C58_000C5A_000C5D_000C5D_000C60_000C61_000C66_000C6F_000C78_000C7E_000C80_000C80,
  0x000C85_000C8C_000C8E_000C90_000C92_000CA8_000CAA_000CB3_000CB5_000CB9_000CBD_000CBD,
  0x000CDD_000CDE_000CE0_000CE1_000CE6_000CEF_000CF1_000CF2_000D04_000D0C_000D0E_000D10,
  0x000D12_000D3A_000D3D_000D3D_000D4E_000D4E_000D54_000D56_000D58_000D61_000D66_000D78,
  0x000D7A_000D7F_000D85_000D96_000D9A_000DB1_000DB3_000DBB_000DBD_000DBD_000DC0_000DC6,
  0x000DE6_000DEF_000E01_000E30_000E32_000E33_000E40_000E46_000E50_000E59_000E81_000E82,
  0x000E84_000E84_000E86_000E8A_000E8C_000EA3_000EA5_000EA5_000EA7_000EB0_000EB2_000EB3,
  0x000EBD_000EBD_000EC0_000EC4_000EC6_000EC6_000ED0_000ED9_000EDC_000EDF_000F00_000F00,
  0x000F20_000F33_000F40_000F47_000F49_000F6C_000F88_000F8C_001000_00102A_00103F_001049,
  0x001050_001055_00105A_00105D_001061_001061_001065_001066_00106E_001070_001075_001081,
  0x00108E_00108E_001090_001099_0010A0_0010C5_0010C7_0010C7_0010CD_0010CD_0010D0_0010FA,
  0x0010FC_001248_00124A_00124D_001250_001256_001258_001258_00125A_00125D_001260_001288,
  0x00128A_00128D_001290_0012B0_0012B2_0012B5_0012B8_0012BE_0012C0_0012C0_0012C2_0012C5,
  0x0012C8_0012D6_0012D8_001310_001312_001315_001318_00135A_001369_00137C_001380_00138F,
  0x0013A0_0013F5_0013F8_0013FD_001401_00166C_00166F_00167F_001681_00169A_0016A0_0016EA,
  0x0016EE_0016F8_001700_001711_00171F_001731_001740_001751_001760_00176C_00176E_001770,
  0x001780_0017B3_0017D7_0017D7_0017DC_0017DC_0017E0_0017E9_0017F0_0017F9_001810_001819,
  0x001820_001878_001880_001884_001887_0018A8_0018AA_0018AA_0018B0_0018F5_001900_00191E,
  0x001946_00196D_001970_001974_001980_0019AB_0019B0_0019C9_0019D0_0019DA_001A00_001A16,
  0x001A20_001A54_001A80_001A89_001A90_001A99_001AA7_001AA7_001B05_001B33_001B45_001B4C,
  0x001B50_001B59_001B83_001BA0_001BAE_001BE5_001C00_001C23_001C40_001C49_001C4D_001C7D,
  0x001C80_001C88_001C90_001CBA_001CBD_001CBF_001CE9_001CEC_001CEE_001CF3_001CF5_001CF6,
  0x001CFA_001CFA_001D00_001DBF_001E00_001F15_001F18_001F1D_001F20_001F45_001F48_001F4D,
  0x001F50_001F57_001F59_101F5D_001F5F_001F7D_001F80_001FB4_001FB6_001FBC_001FBE_001FBE,
  0x001FC2_001FC4_001FC6_001FCC_001FD0_001FD3_001FD6_001FDB_001FE0_001FEC_001FF2_001FF4,
  0x001FF6_001FFC_002070_002071_002074_002079_00207F_002089_002090_00209C_002102_002102,
  0x002107_002107_00210A_002113_002115_002115_002119_00211D_002124_102128_00212A_00212D,
  0x00212F_002139_00213C_00213F_002145_002149_00214E_00214E_002150_002189_002460_00249B,
  0x0024EA_0024FF_002776_002793_002C00_002CE4_002CEB_002CEE_002CF2_002CF3_002CFD_002CFD,
  0x002D00_002D25_002D27_002D27_002D2D_002D2D_002D30_002D67_002D6F_002D6F_002D80_002D96,
  0x002DA0_002DA6_002DA8_002DAE_002DB0_002DB6_002DB8_002DBE_002DC0_002DC6_002DC8_002DCE,
  0x002DD0_002DD6_002DD8_002DDE_002E2F_002E2F_003005_003007_003021_003029_003031_003035,
  0x003038_00303C_003041_003096_00309D_00309F_0030A1_0030FA_0030FC_0030FF_003105_00312F,
  0x003131_00318E_003192_003195_0031A0_0031BF_0031F0_0031FF_003220_003229_003248_00324F,
  0x003251_00325F_003280_003289_0032B1_0032BF_003400_004DBF_004E00_00A48C_00A4D0_00A4FD,
  0x00A500_00A60C_00A610_00A62B_00A640_00A66E_00A67F_00A69D_00A6A0_00A6EF_00A717_00A71F,
  0x00A722_00A788_00A78B_00A7CA_00A7D0_00A7D1_00A7D3_00A7D3_00A7D5_00A7D9_00A7F2_00A801,
  0x00A803_00A805_00A807_00A80A_00A80C_00A822_00A830_00A835_00A840_00A873_00A882_00A8B3,
  0x00A8D0_00A8D9_00A8F2_00A8F7_00A8FB_00A8FB_00A8FD_00A8FE_00A900_00A925_00A930_00A946,
  0x00A960_00A97C_00A984_00A9B2_00A9CF_00A9D9_00A9E0_00A9E4_00A9E6_00A9FE_00AA00_00AA28,
  0x00AA40_00AA42_00AA44_00AA4B_00AA50_00AA59_00AA60_00AA76_00AA7A_00AA7A_00AA7E_00AAAF,
  0x00AAB1_00AAB1_00AAB5_00AAB6_00AAB9_00AABD_00AAC0_10AAC2_00AADB_00AADD_00AAE0_00AAEA,
  0x00AAF2_00AAF4_00AB01_00AB06_00AB09_00AB0E_00AB11_00AB16_00AB20_00AB26_00AB28_00AB2E,
  0x00AB30_00AB5A_00AB5C_00AB69_00AB70_00ABE2_00ABF0_00ABF9_00AC00_00D7A3_00D7B0_00D7C6,
  0x00D7CB_00D7FB_00F900_00FA6D_00FA70_00FAD9_00FB00_00FB06_00FB13_00FB17_00FB1D_00FB1D,
  0x00FB1F_00FB28_00FB2A_00FB36_00FB38_00FB3C_00FB3E_00FB3E_00FB40_00FB41_00FB43_00FB44,
  0x00FB46_00FBB1_00FBD3_00FD3D_00FD50_00FD8F_00FD92_00FDC7_00FDF0_00FDFB_00FE70_00FE74,
  0x00FE76_00FEFC_00FF10_00FF19_00FF21_00FF3A_00FF41_00FF5A_00FF66_00FFBE_00FFC2_00FFC7,
  0x00FFCA_00FFCF_00FFD2_00FFD7_00FFDA_00FFDC_010000_01000B_01000D_010026_010028_01003A,
  0x01003C_01003D_01003F_01004D_010050_01005D_010080_0100FA_010107_010133_010140_010178,
  0x01018A_01018B_010280_01029C_0102A0_0102D0_0102E1_0102FB_010300_010323_01032D_01034A,
  0x010350_010375_010380_01039D_0103A0_0103C3_0103C8_0103CF_0103D1_0103D5_010400_01049D,
  0x0104A0_0104A9_0104B0_0104D3_0104D8_0104FB_010500_010527_010530_010563_010570_01057A,
  0x01057C_01058A_01058C_010592_010594_010595_010597_0105A1_0105A3_0105B1_0105B3_0105B9,
  0x0105BB_0105BC_010600_010736_010740_010755_010760_010767_010780_010785_010787_0107B0,
  0x0107B2_0107BA_010800_010805_010808_010808_01080A_010835_010837_010838_01083C_01083C,
  0x01083F_010855_010858_010876_010879_01089E_0108A7_0108AF_0108E0_0108F2_0108F4_0108F5,
  0x0108FB_01091B_010920_010939_010980_0109B7_0109BC_0109CF_0109D2_010A00_010A10_010A13,
  0x010A15_010A17_010A19_010A35_010A40_010A48_010A60_010A7E_010A80_010A9F_010AC0_010AC7,
  0x010AC9_010AE4_010AEB_010AEF_010B00_010B35_010B40_010B55_010B58_010B72_010B78_010B91,
  0x010BA9_010BAF_010C00_010C48_010C80_010CB2_010CC0_010CF2_010CFA_010D23_010D30_010D39,
  0x010E60_010E7E_010E80_010EA9_010EB0_010EB1_010F00_010F27_010F30_010F45_010F51_010F54,
  0x010F70_010F81_010FB0_010FCB_010FE0_010FF6_011003_011037_011052_01106F_011071_011072,
  0x011075_011075_011083_0110AF_0110D0_0110E8_0110F0_0110F9_011103_011126_011136_01113F,
  0x011144_011144_011147_011147_011150_011172_011176_011176_011183_0111B2_0111C1_0111C4,
  0x0111D0_0111DA_0111DC_0111DC_0111E1_0111F4_011200_011211_011213_01122B_011280_011286,
  0x011288_011288_01128A_01128D_01128F_01129D_01129F_0112A8_0112B0_0112DE_0112F0_0112F9,
  0x011305_01130C_01130F_011310_011313_011328_01132A_011330_011332_011333_011335_011339,
  0x01133D_01133D_011350_011350_01135D_011361_011400_011434_011447_01144A_011450_011459,
  0x01145F_011461_011480_0114AF_0114C4_0114C5_0114C7_0114C7_0114D0_0114D9_011580_0115AE,
  0x0115D8_0115DB_011600_01162F_011644_011644_011650_011659_011680_0116AA_0116B8_0116B8,
  0x0116C0_0116C9_011700_01171A_011730_01173B_011740_011746_011800_01182B_0118A0_0118F2,
  0x0118FF_011906_011909_011909_01190C_011913_011915_011916_011918_01192F_01193F_111941,
  0x011950_011959_0119A0_0119A7_0119AA_0119D0_0119E1_1119E3_011A00_011A00_011A0B_011A32,
  0x011A3A_011A3A_011A50_011A50_011A5C_011A89_011A9D_011A9D_011AB0_011AF8_011C00_011C08,
  0x011C0A_011C2E_011C40_011C40_011C50_011C6C_011C72_011C8F_011D00_011D06_011D08_011D09,
  0x011D0B_011D30_011D46_011D46_011D50_011D59_011D60_011D65_011D67_011D68_011D6A_011D89,
  0x011D98_011D98_011DA0_011DA9_011EE0_011EF2_011FB0_011FB0_011FC0_011FD4_012000_012399,
  0x012400_01246E_012480_012543_012F90_012FF0_013000_01342E_014400_014646_016800_016A38,
  0x016A40_016A5E_016A60_016A69_016A70_016ABE_016AC0_016AC9_016AD0_016AED_016B00_016B2F,
  0x016B40_016B43_016B50_016B59_016B5B_016B61_016B63_016B77_016B7D_016B8F_016E40_016E96,
  0x016F00_016F4A_016F50_016F50_016F93_016F9F_016FE0_016FE1_016FE3_016FE3_017000_0187F7,
  0x018800_018CD5_018D00_018D08_01AFF0_01AFF3_01AFF5_01AFFB_01AFFD_01AFFE_01B000_01B122,
  0x01B150_01B152_01B164_01B167_01B170_01B2FB_01BC00_01BC6A_01BC70_01BC7C_01BC80_01BC88,
  0x01BC90_01BC99_01D2E0_01D2F3_01D360_01D378_01D400_01D454_01D456_01D49C_01D49E_01D49F,
  0x01D4A2_01D4A2_01D4A5_01D4A6_01D4A9_01D4AC_01D4AE_01D4B9_01D4BB_01D4BB_01D4BD_01D4C3,
  0x01D4C5_01D505_01D507_01D50A_01D50D_01D514_01D516_01D51C_01D51E_01D539_01D53B_01D53E,
  0x01D540_01D544_01D546_01D546_01D54A_01D550_01D552_01D6A5_01D6A8_01D6C0_01D6C2_01D6DA,
  0x01D6DC_01D6FA_01D6FC_01D714_01D716_01D734_01D736_01D74E_01D750_01D76E_01D770_01D788,
  0x01D78A_01D7A8_01D7AA_01D7C2_01D7C4_01D7CB_01D7CE_01D7FF_01DF00_01DF1E_01E100_01E12C,
  0x01E137_01E13D_01E140_01E149_01E14E_01E14E_01E290_01E2AD_01E2C0_01E2EB_01E2F0_01E2F9,
  0x01E7E0_01E7E6_01E7E8_01E7EB_01E7ED_01E7EE_01E7F0_01E7FE_01E800_01E8C4_01E8C7_01E8CF,
  0x01E900_01E943_01E94B_01E94B_01E950_01E959_01EC71_01ECAB_01ECAD_01ECAF_01ECB1_01ECB4,
  0x01ED01_01ED2D_01ED2F_01ED3D_01EE00_01EE03_01EE05_01EE1F_01EE21_01EE22_01EE24_01EE24,
  0x01EE27_01EE27_01EE29_01EE32_01EE34_01EE37_01EE39_11EE3B_01EE42_01EE42_01EE47_11EE4B,
  0x01EE4D_01EE4F_01EE51_01EE52_01EE54_01EE54_01EE57_11EE5F_01EE61_01EE62_01EE64_01EE64,
  0x01EE67_01EE6A_01EE6C_01EE72_01EE74_01EE77_01EE79_01EE7C_01EE7E_01EE7E_01EE80_01EE89,
  0x01EE8B_01EE9B_01EEA1_01EEA3_01EEA5_01EEA9_01EEAB_01EEBB_01F100_01F10C_01FBF0_01FBF9,
  0x020000_02A6DF_02A700_02B738_02B740_02B81D_02B820_02CEA1_02CEB0_02EBE0_02F800_02FA1D,
  0x030000_03134A]

def decimalRows : List Nat := [
  0x000660_000669_0006F0_0006F9_0007C0_0007C9_000966_00096F_0009E6_0009EF_000A66_000A6F,
  0x000AE6_000AEF_000B66_000B6F_000BE6_000BEF_000C66_000C6F_000CE6_000CEF_000D66_000D6F,
  0x000DE6_000DEF_000E50_000E59_000ED0_000ED9_000F20_000F29_001040_001049_001090_001099,
  0x0017E0_0017E9_001810_001819_001946_00194F_0019D0_0019D9_001A80_001A89_001A90_001A99,
  0x001B50_001B59_001BB0_001BB9_001C40_001C49_001C50_001C59_00A620_00A629_00A8D0_00A8D9,
  0x00A900_00A909_00A9D0_00A9D9_00A9F0_00A9F9_00AA50_00AA59_00ABF0_00ABF9_00FF10_00FF19,
  0x0104A0_0104A9_010D30_010D39_011066_01106F_0110F0_0110F9_011136_01113F_0111D0_0111D9,
  0x0112F0_0112F9_011450_011459_0114D0_0114D9_011650_011659_0116C0_0116C9_011730_011739,
  0x0118E0_0118E9_011950_011959_011C50_011C59_011D50_011D59_011DA0_011DA9_016A60_016A69,
  0x016AC0_016AC9_016B50_016B59_01D7CE_01D7FF_01E140_01E149_01E2F0_01E2F9_01E950_01E959,
  0x01FBF0_01FBF9]

def alphanumericSet : CodeSet := .ofRows alphanumericRows

def decimalSet : CodeSet := .ofRows decimalRows

def isDecimal (c : Char) : Bool :=
  if c.toNat < 128 then c.isDigit else decimalSet.contains c

def isWord (c : Char) : Bool :=
  if c.toNat < 128 then c.isAlphanum || c == '_' else alphanumericSet.contains c

end FieldOrder.Text
