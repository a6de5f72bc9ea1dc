import FieldOrder.Text.CodeTable

namespace FieldOrder.Text

/-- Printable characters beyond ASCII, as a set: no controls, format characters, separators,
private or unassigned code points. -/
def printableRows : List Nat := [
  0x0000A1_0000AC_0000AE_000377_00037A_00037F_000384_00038A_00038C_00038C_00038E_0003A1,
  0x0003A3_00052F_000531_000556_000559_00058A_00058D_00058F_000591_0005C7_0005D0_0005EA,
  0x0005EF_0005F4_000606_00061B_00061D_0006DC_0006DE_00070D_000710_00074A_00074D_0007B1,
  0x0007C0_0007FA_0007FD_00082D_000830_00083E_000840_00085B_00085E_00085E_000860_00086A,
  0x000870_00088E_000898_0008E1_0008E3_000983_000985_00098C_00098F_000990_000993_0009A8,
  0x0009AA_0009B0_0009B2_0009B2_0009B6_0009B9_0009BC_0009C4_0009C7_0009C8_0009CB_0009CE,
  0x0009D7_0009D7_0009DC_0009DD_0009DF_0009E3_0009E6_0009FE_000A01_000A03_000A05_000A0A,
  0x000A0F_000A10_000A13_000A28_000A2A_000A30_000A32_000A33_000A35_000A36_000A38_000A39,
  0x000A3C_000A3C_000A3E_000A42_000A47_000A48_000A4B_000A4D_000A51_000A51_000A59_000A5C,
  0x000A5E_000A5E_000A66_000A76_000A81_000A83_000A85_000A8D_000A8F_000A91_000A93_000AA8,
  0x000AAA_000AB0_000AB2_000AB3_000AB5_000AB9_000ABC_000AC5_000AC7_000AC9_000ACB_000ACD,
  0x000AD0_000AD0_000AE0_000AE3_000AE6_000AF1_000AF9_000AFF_000B01_000B03_000B05_000B0C,
  0x000B0F_000B10_000B13_000B28_000B2A_000B30_000B32_000B33_000B35_000B39_000B3C_000B44,
  0x000B47_000B48_000B4B_000B4D_000B55_000B57_000B5C_000B5D_000B5F_000B63_000B66_000B77,
  0x000B82_000B83_000B85_000B8A_000B8E_000B90_000B92_000B95_000B99_000B9A_000B9C_000B9C,
  0x000B9E_000B9F_000BA3_000BA4_000BA8_000BAA_000BAE_000BB9_000BBE_000BC2_000BC6_000BC8,
  0x000BCA_000BCD_000BD0_000BD0_000BD7_000BD7_000BE6_000BFA_000C00_000C0C_000C0E_000C10,
  0x000C12_000C28_000C2A_000C39_000C3C_000C44_000C46_000C48_000C4A_000C4D_000C55_000C56,
  0x000C58_000C5A_000C5D_000C5D_000C60_000C63_000C66_000C6F_000C77_000C8C_000C8E_000C90,
  0x000C92_000CA8_000CAA_000CB3_000CB5_000CB9_000CBC_000CC4_000CC6_000CC8_000CCA_000CCD,
  0x000CD5_000CD6_000CDD_000CDE_000CE0_000CE3_000CE6_000CEF_000CF1_000CF2_000D00_000D0C,
  0x000D0E_000D10_000D12_000D44_000D46_000D48_000D4A_000D4F_000D54_000D63_000D66_000D7F,
  0x000D81_000D83_000D85_000D96_000D9A_000DB1_000DB3_000DBB_000DBD_000DBD_000DC0_000DC6,
  0x000DCA_000DCA_000DCF_000DD4_000DD6_000DD6_000DD8_000DDF_000DE6_000DEF_000DF2_000DF4,
  0x000E01_000E3A_000E3F_000E5B_000E81_000E82_000E84_000E84_000E86_000E8A_000E8C_000EA3,
  0x000EA5_000EA5_000EA7_000EBD_000EC0_000EC4_000EC6_000EC6_000EC8_000ECD_000ED0_000ED9,
  0x000EDC_000EDF_000F00_000F47_000F49_000F6C_000F71_000F97_000F99_000FBC_000FBE_000FCC,
  0x000FCE_000FDA_001000_0010C5_0010C7_0010C7_0010CD_0010CD_0010D0_001248_00124A_00124D,
  0x001250_001256_001258_001258_00125A_00125D_001260_001288_00128A_00128D_001290_0012B0,
  0x0012B2_0012B5_0012B8_0012BE_0012C0_0012C0_0012C2_0012C5_0012C8_0012D6_0012D8_001310,
  0x001312_001315_001318_00135A_00135D_00137C_001380_001399_0013A0_0013F5_0013F8_0013FD,
  0x001400_00167F_001681_00169C_0016A0_0016F8_001700_001715_00171F_001736_001740_001753,
  0x001760_00176C_00176E_001770_001772_001773_001780_0017DD_0017E0_0017E9_0017F0_0017F9,
  0x001800_00180D_00180F_001819_001820_001878_001880_0018AA_0018B0_0018F5_001900_00191E,
  0x001920_00192B_001930_00193B_001940_001940_001944_00196D_001970_001974_001980_0019AB,
  0x0019B0_0019C9_0019D0_0019DA_0019DE_001A1B_001A1E_001A5E_001A60_001A7C_001A7F_001A89,
  0x001A90_001A99_001AA0_001AAD_001AB0_001ACE_001B00_001B4C_001B50_001B7E_001B80_001BF3,
  0x001BFC_001C37_001C3B_001C49_001C4D_001C88_001C90_001CBA_001CBD_001CC7_001CD0_001CFA,
  0x001D00_001F15_001F18_001F1D_001F20_001F45_001F48_001F4D_001F50_001F57_001F59_101F5D,
  0x001F5F_001F7D_001F80_001FB4_001FB6_001FC4_001FC6_001FD3_001FD6_001FDB_001FDD_001FEF,
  0x001FF2_001FF4_001FF6_001FFE_002010_002027_002030_00205E_002070_002071_002074_00208E,
  0x002090_00209C_0020A0_0020C0_0020D0_0020F0_002100_00218B_002190_002426_002440_00244A,
  0x002460_002B73_002B76_002B95_002B97_002CF3_002CF9_002D25_002D27_002D27_002D2D_002D2D,
  0x002D30_002D67_002D6F_002D70_002D7F_002D96_002DA0_002DA6_002DA8_002DAE_002DB0_002DB6,
  0x002DB8_002DBE_002DC0_002DC6_002DC8_002DCE_002DD0_002DD6_002DD8_002DDE_002DE0_002E5D,
  0x002E80_002E99_002E9B_002EF3_002F00_002FD5_002FF0_002FFB_003001_00303F_003041_003096,
  0x003099_0030FF_003105_00312F_003131_00318E_003190_0031E3_0031F0_00321E_003220_00A48C,
  0x00A490_00A4C6_00A4D0_00A62B_00A640_00A6F7_00A700_00A7CA_00A7D0_00A7D1_00A7D3_00A7D3,
  0x00A7D5_00A7D9_00A7F2_00A82C_00A830_00A839_00A840_00A877_00A880_00A8C5_00A8CE_00A8D9,
  0x00A8E0_00A953_00A95F_00A97C_00A980_00A9CD_00A9CF_00A9D9_00A9DE_00A9FE_00AA00_00AA36,
  0x00AA40_00AA4D_00AA50_00AA59_00AA5C_00AAC2_00AADB_00AAF6_00AB01_00AB06_00AB09_00AB0E,
  0x00AB11_00AB16_00AB20_00AB26_00AB28_00AB2E_00AB30_00AB6B_00AB70_00ABED_00ABF0_00ABF9,
  0x00AC00_00D7A3_00D7B0_00D7C6_00D7CB_00D7FB_00F900_00FA6D_00FA70_00FAD9_00FB00_00FB06,
  0x00FB13_00FB17_00FB1D_00FB36_00FB38_00FB3C_00FB3E_00FB3E_00FB40_00FB41_00FB43_00FB44,
  0x00FB46_00FBC2_00FBD3_00FD8F_00FD92_00FDC7_00FDCF_00FDCF_00FDF0_00FE19_00FE20_00FE52,
  0x00FE54_00FE66_00FE68_00FE6B_00FE70_00FE74_00FE76_00FEFC_00FF01_00FFBE_00FFC2_00FFC7,
  0x00FFCA_00FFCF_00FFD2_00FFD7_00FFDA_00FFDC_00FFE0_00FFE6_00FFE8_00FFEE_00FFFC_00FFFD,
  0x010000_01000B_01000D_010026_010028_01003A_01003C_01003D_01003F_01004D_010050_01005D,
  0x010080_0100FA_010100_010102_010107_010133_010137_01018E_010190_01019C_0101A0_0101A0,
  0x0101D0_0101FD_010280_01029C_0102A0_0102D0_0102E0_0102FB_010300_010323_01032D_01034A,
  0x010350_01037A_010380_01039D_01039F_0103C3_0103C8_0103D5_010400_01049D_0104A0_0104A9,
  0x0104B0_0104D3_0104D8_0104FB_010500_010527_010530_010563_01056F_01057A_01057C_01058A,
  0x01058C_010592_010594_010595_010597_0105A1_0105A3_0105B1_0105B3_0105B9_0105BB_0105BC,
  0x010600_010736_010740_010755_010760_010767_010780_010785_010787_0107B0_0107B2_0107BA,
  0x010800_010805_010808_010808_01080A_010835_010837_010838_01083C_01083C_01083F_010855,
  0x010857_01089E_0108A7_0108AF_0108E0_0108F2_0108F4_0108F5_0108FB_01091B_01091F_010939,
  0x01093F_01093F_010980_0109B7_0109BC_0109CF_0109D2_010A03_010A05_010A06_010A0C_010A13,
  0x010A15_010A17_010A19_010A35_010A38_010A3A_010A3F_010A48_010A50_010A58_010A60_010A9F,
  0x010AC0_010AE6_010AEB_010AF6_010B00_010B35_010B39_010B55_010B58_010B72_010B78_010B91,
  0x010B99_010B9C_010BA9_010BAF_010C00_010C48_010C80_010CB2_010CC0_010CF2_010CFA_010D27,
  0x010D30_010D39_010E60_010E7E_010E80_010EA9_010EAB_010EAD_010EB0_010EB1_010F00_010F27,
  0x010F30_010F59_010F70_010F89_010FB0_010FCB_010FE0_010FF6_011000_01104D_011052_011075,
  0x01107F_0110BC_0110BE_0110C2_0110D0_0110E8_0110F0_0110F9_011100_011134_011136_011147,
  0x011150_011176_011180_0111DF_0111E1_0111F4_011200_011211_011213_01123E_011280_011286,
  0x011288_011288_01128A_01128D_01128F_01129D_01129F_0112A9_0112B0_0112EA_0112F0_0112F9,
  0x011300_011303_011305_01130C_01130F_011310_011313_011328_01132A_011330_011332_011333,
  0x011335_011339_01133B_011344_011347_011348_01134B_01134D_011350_011350_011357_011357,
  0x01135D_011363_011366_01136C_011370_011374_011400_01145B_01145D_011461_011480_0114C7,
  0x0114D0_0114D9_011580_0115B5_0115B8_0115DD_011600_011644_011650_011659_011660_01166C,
  0x011680_0116B9_0116C0_0116C9_011700_01171A_01171D_01172B_011730_011746_011800_01183B,
  0x0118A0_0118F2_0118FF_011906_011909_011909_01190C_011913_011915_011916_011918_011935,
  0x011937_011938_01193B_011946_011950_011959_0119A0_0119A7_0119AA_0119D7_0119DA_0119E4,
  0x011A00_011A47_011A50_011AA2_011AB0_011AF8_011C00_011C08_011C0A_011C36_011C38_011C45,
  0x011C50_011C6C_011C70_011C8F_011C92_011CA7_011CA9_011CB6_011D00_011D06_011D08_011D09,
  0x011D0B_011D36_011D3A_011D3A_011D3C_011D3D_011D3F_011D47_011D50_011D59_011D60_011D65,
  0x011D67_011D68_011D6A_011D8E_011D90_011D91_011D93_011D98_011DA0_011DA9_011EE0_011EF8,
  0x011FB0_011FB0_011FC0_011FF1_011FFF_012399_012400_01246E_012470_012474_012480_012543,
  0x012F90_012FF2_013000_01342E_014400_014646_016800_016A38_016A40_016A5E_016A60_016A69,
  0x016A6E_016ABE_016AC0_016AC9_016AD0_016AED_016AF0_016AF5_016B00_016B45_016B50_016B59,
  0x016B5B_016B61_016B63_016B77_016B7D_016B8F_016E40_016E9A_016F00_016F4A_016F4F_016F87,
  0x016F8F_016F9F_016FE0_016FE4_016FF0_016FF1_017000_0187F7_018800_018CD5_018D00_018D08,
  0x01AFF0_01AFF3_01AFF5_01AFFB_01AFFD_01AFFE_01B000_01B122_01B150_01B152_01B164_01B167,
  0x01B170_01B2FB_01BC00_01BC6A_01BC70_01BC7C_01BC80_01BC88_01BC90_01BC99_01BC9C_01BC9F,
  0x01CF00_01CF2D_01CF30_01CF46_01CF50_01CFC3_01D000_01D0F5_01D100_01D126_01D129_01D172,
  0x01D17B_01D1EA_01D200_01D245_01D2E0_01D2F3_01D300_01D356_01D360_01D378_01D400_01D454,
  0x01D456_01D49C_01D49E_01D49F_01D4A2_01D4A2_01D4A5_01D4A6_01D4A9_01D4AC_01D4AE_01D4B9,
  0x01D4BB_01D4BB_01D4BD_01D4C3_01D4C5_01D505_01D507_01D50A_01D50D_01D514_01D516_01D51C,
  0x01D51E_01D539_01D53B_01D53E_01D540_01D544_01D546_01D546_01D54A_01D550_01D552_01D6A5,
  0x01D6A8_01D7CB_01D7CE_01DA8B_01DA9B_01DA9F_01DAA1_01DAAF_01DF00_01DF1E_01E000_01E006,
  0x01E008_01E018_01E01B_01E021_01E023_01E024_01E026_01E02A_01E100_01E12C_01E130_01E13D,
  0x01E140_01E149_01E14E_01E14F_01E290_01E2AE_01E2C0_01E2F9_01E2FF_01E2FF_01E7E0_01E7E6,
  0x01E7E8_01E7EB_01E7ED_01E7EE_01E7F0_01E7FE_01E800_01E8C4_01E8C7_01E8D6_01E900_01E94B,
  0x01E950_01E959_01E95E_01E95F_01EC71_01ECB4_01ED01_01ED3D_01EE00_01EE03_01EE05_01EE1F,
  0x01EE21_01EE22_01EE24_01EE24_01EE27_01EE27_01EE29_01EE32_01EE34_01EE37_01EE39_11EE3B,
  0x01EE42_01EE42_01EE47_11EE4B_01EE4D_01EE4F_01EE51_01EE52_01EE54_01EE54_01EE57_11EE5F,
  0x01EE61_01EE62_01EE64_01EE64_01EE67_01EE6A_01EE6C_01EE72_01EE74_01EE77_01EE79_01EE7C,
  0x01EE7E_01EE7E_01EE80_01EE89_01EE8B_01EE9B_01EEA1_01EEA3_01EEA5_01EEA9_01EEAB_01EEBB,
  0x01EEF0_01EEF1_01F000_01F02B_01F030_01F093_01F0A0_01F0AE_01F0B1_01F0BF_01F0C1_01F0CF,
  0x01F0D1_01F0F5_01F100_01F1AD_01F1E6_01F202_01F210_01F23B_01F240_01F248_01F250_01F251,
  0x01F260_01F265_01F300_01F6D7_01F6DD_01F6EC_01F6F0_01F6FC_01F700_01F773_01F780_01F7D8,
  0x01F7E0_01F7EB_01F7F0_01F7F0_01F800_01F80B_01F810_01F847_01F850_01F859_01F860_01F887,
  0x01F890_01F8AD_01F8B0_01F8B1_01F900_01FA53_01FA60_01FA6D_01FA70_01FA74_01FA78_01FA7C,
  0x01FA80_01FA86_01FA90_01FAAC_01FAB0_01FABA_01FAC0_01FAC5_01FAD0_01FAD9_01FAE0_01FAE7,
  0x01FAF0_01FAF6_01FB00_01FB92_01FB94_01FBCA_01FBF0_01FBF9_020000_02A6DF_02A700_02B738,
  0x02B740_02B81D_02B820_02CEA1_02CEB0_02EBE0_02F800_02FA1D_030000_03134A_0E0100_0E01EF]

def printableSet : CodeSet := .ofRows printableRows

def isPrintable (c : Char) : Bool :=
  if c.toNat < 128 then 32 ≤ c.toNat && c.toNat < 127 else printableSet.contains c

end FieldOrder.Text
