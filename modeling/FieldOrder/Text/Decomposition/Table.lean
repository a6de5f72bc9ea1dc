namespace FieldOrder.Text

/-- Full compatibility decompositions as mappings, Hangul syllables apart. -/
def decompositionRows : List Nat := [
  0x1000A0_000020_1000A8_000020_000308_1000AA_000061_1000AF_000020_000304_1000B2_2000B3_000032,
  0x1000B4_000020_000301_1000B5_0003BC_1000B8_000020_000327_1000B9_000031_1000BA_00006F,
  0x1000BC_000031_002044_000034_1000BD_000031_002044_000032_1000BE_000033_002044_000034,
  0x1000C0_000041_000300_1000C1_000041_000301_1000C2_000041_000302_1000C3_000041_000303,
  0x1000C4_000041_000308_1000C5_000041_00030A_1000C7_000043_000327_1000C8_000045_000300,
  0x1000C9_000045_000301_1000CA_000045_000302_1000CB_000045_000308_1000CC_000049_000300,
  0x1000CD_000049_000301_1000CE_000049_000302_1000CF_000049_000308_1000D1_00004E_000303,
  0x1000D2_00004F_000300_1000D3_00004F_000301_1000D4_00004F_000302_1000D5_00004F_000303,
  0x1000D6_00004F_000308_1000D9_000055_000300_1000DA_000055_000301_1000DB_000055_000302,
  0x1000DC_000055_000308_1000DD_000059_000301_1000E0_000061_000300_1000E1_000061_000301,
  0x1000E2_000061_000302_1000E3_000061_000303_1000E4_000061_000308_1000E5_000061_00030A,
  0x1000E7_000063_000327_1000E8_000065_000300_1000E9_000065_000301_1000EA_000065_000302,
  0x1000EB_000065_000308_1000EC_000069_000300_1000ED_000069_000301_1000EE_000069_000302,
  0x1000EF_000069_000308_1000F1_00006E_000303_1000F2_00006F_000300_1000F3_00006F_000301,
  0x1000F4_00006F_000302_1000F5_00006F_000303_1000F6_00006F_000308_1000F9_000075_000300,
  0x1000FA_000075_000301_1000FB_000075_000302_1000FC_000075_000308_1000FD_000079_000301,
  0x1000FF_000079_000308_100100_000041_000304_100101_000061_000304_100102_000041_000306,
  0x100103_000061_000306_100104_000041_000328_100105_000061_000328_100106_000043_000301,
  0x100107_000063_000301_100108_000043_000302_100109_000063_000302_10010A_000043_000307,
  0x10010B_000063_000307_10010C_000043_00030C_10010D_000063_00030C_10010E_000044_00030C,
  0x10010F_000064_00030C_100112_000045_000304_100113_000065_000304_100114_000045_000306,
  0x100115_000065_000306_100116_000045_000307_100117_000065_000307_100118_000045_000328,
  0x100119_000065_000328_10011A_000045_00030C_10011B_000065_00030C_10011C_000047_000302,
  0x10011D_000067_000302_10011E_000047_000306_10011F_000067_000306_100120_000047_000307,
  0x100121_000067_000307_100122_000047_000327_100123_000067_000327_100124_000048_000302,
  0x100125_000068_000302_100128_000049_000303_100129_000069_000303_10012A_000049_000304,
  0x10012B_000069_000304_10012C_000049_000306_10012D_000069_000306_10012E_000049_000328,
  0x10012F_000069_000328_100130_000049_000307_100132_000049_00004A_100133_000069_00006A,
  0x100134_00004A_000302_100135_00006A_000302_100136_00004B_000327_100137_00006B_000327,
  0x100139_00004C_000301_10013A_00006C_000301_10013B_00004C_000327_10013C_00006C_000327,
  0x10013D_00004C_00030C_10013E_00006C_00030C_10013F_00004C_0000B7_100140_00006C_0000B7,
  0x100143_00004E_000301_100144_00006E_000301_100145_00004E_000327_100146_00006E_000327,
  0x100147_00004E_00030C_100148_00006E_00030C_100149_0002BC_00006E_10014C_00004F_000304,
  0x10014D_00006F_000304_10014E_00004F_000306_10014F_00006F_000306_100150_00004F_00030B,
  0x100151_00006F_00030B_100154_000052_000301_100155_000072_000301_100156_000052_000327,
  0x100157_000072_000327_100158_000052_00030C_100159_000072_00030C_10015A_000053_000301,
  0x10015B_000073_000301_10015C_000053_000302_10015D_000073_000302_10015E_000053_000327,
  0x10015F_000073_000327_100160_000053_00030C_100161_000073_00030C_100162_000054_000327,
  0x100163_000074_000327_100164_000054_00030C_100165_000074_00030C_100168_000055_000303,
  0x100169_000075_000303_10016A_000055_000304_10016B_000075_000304_10016C_000055_000306,
  0x10016D_000075_000306_10016E_000055_00030A_10016F_000075_00030A_100170_000055_00030B,
  0x100171_000075_00030B_100172_000055_000328_100173_000075_000328_100174_000057_000302,
  0x100175_000077_000302_100176_000059_000302_100177_000079_000302_100178_000059_000308,
  0x100179_00005A_000301_10017A_00007A_000301_10017B_00005A_000307_10017C_00007A_000307,
  0x10017D_00005A_00030C_10017E_00007A_00030C_10017F_000073_1001A0_00004F_00031B,
  0x1001A1_00006F_00031B_1001AF_000055_00031B_1001B0_000075_00031B_1001C4_000044_00005A_00030C,
  0x1001C5_000044_00007A_00030C_1001C6_000064_00007A_00030C_1001C7_00004C_00004A,
  0x1001C8_00004C_00006A_1001C9_00006C_00006A_1001CA_00004E_00004A_1001CB_00004E_00006A,
  0x1001CC_00006E_00006A_1001CD_000041_00030C_1001CE_000061_00030C_1001CF_000049_00030C,
  0x1001D0_000069_00030C_1001D1_00004F_00030C_1001D2_00006F_00030C_1001D3_000055_00030C,
  0x1001D4_000075_00030C_1001D5_000055_000308_000304_1001D6_000075_000308_000304,
  0x1001D7_000055_000308_000301_1001D8_000075_000308_000301_1001D9_000055_000308_00030C,
  0x1001DA_000075_000308_00030C_1001DB_000055_000308_000300_1001DC_000075_000308_000300,
  0x1001DE_000041_000308_000304_1001DF_000061_000308_000304_1001E0_000041_000307_000304,
  0x1001E1_000061_000307_000304_1001E2_0000C6_000304_1001E3_0000E6_000304_1001E6_000047_00030C,
  0x1001E7_000067_00030C_1001E8_00004B_00030C_1001E9_00006B_00030C_1001EA_00004F_000328,
  0x1001EB_00006F_000328_1001EC_00004F_000328_000304_1001ED_00006F_000328_000304,
  0x1001EE_0001B7_00030C_1001EF_000292_00030C_1001F0_00006A_00030C_1001F1_000044_00005A,
  0x1001F2_000044_00007A_1001F3_000064_00007A_1001F4_000047_000301_1001F5_000067_000301,
  0x1001F8_00004E_000300_1001F9_00006E_000300_1001FA_000041_00030A_000301,
  0x1001FB_000061_00030A_000301_1001FC_0000C6_000301_1001FD_0000E6_000301_1001FE_0000D8_000301,
  0x1001FF_0000F8_000301_100200_000041_00030F_100201_000061_00030F_100202_000041_000311,
  0x100203_000061_000311_100204_000045_00030F_100205_000065_00030F_100206_000045_000311,
  0x100207_000065_000311_100208_000049_00030F_100209_000069_00030F_10020A_000049_000311,
  0x10020B_000069_000311_10020C_00004F_00030F_10020D_00006F_00030F_10020E_00004F_000311,
  0x10020F_00006F_000311_100210_000052_00030F_100211_000072_00030F_100212_000052_000311,
  0x100213_000072_000311_100214_000055_00030F_100215_000075_00030F_100216_000055_000311,
  0x100217_000075_000311_100218_000053_000326_100219_000073_000326_10021A_000054_000326,
  0x10021B_000074_000326_10021E_000048_00030C_10021F_000068_00030C_100226_000041_000307,
  0x100227_000061_000307_100228_000045_000327_100229_000065_000327_10022A_00004F_000308_000304,
  0x10022B_00006F_000308_000304_10022C_00004F_000303_000304_10022D_00006F_000303_000304,
  0x10022E_00004F_000307_10022F_00006F_000307_100230_00004F_000307_000304,
  0x100231_00006F_000307_000304_100232_000059_000304_100233_000079_000304_1002B0_3002B2_000068,
  0x1002B1_000266_1002B3_000072_1002B4_000279_1002B5_00027B_1002B6_000281_1002B7_000077,
  0x1002B8_000079_1002D8_000020_000306_1002D9_000020_000307_1002DA_000020_00030A,
  0x1002DB_000020_000328_1002DC_000020_000303_1002DD_000020_00030B_1002E0_000263_1002E1_00006C,
  0x1002E2_000073_1002E3_000078_1002E4_000295_100340_200341_000300_100343_000313,
  0x100344_000308_000301_100374_0002B9_10037A_000020_000345_10037E_00003B_100384_000020_000301,
  0x100385_000020_000308_000301_100386_000391_000301_100387_0000B7_100388_000395_000301,
  0x100389_000397_000301_10038A_000399_000301_10038C_00039F_000301_10038E_0003A5_000301,
  0x10038F_0003A9_000301_100390_0003B9_000308_000301_1003AA_000399_000308_1003AB_0003A5_000308,
  0x1003AC_0003B1_000301_1003AD_0003B5_000301_1003AE_0003B7_000301_1003AF_0003B9_000301,
  0x1003B0_0003C5_000308_000301_1003CA_0003B9_000308_1003CB_0003C5_000308_1003CC_0003BF_000301,
  0x1003CD_0003C5_000301_1003CE_0003C9_000301_1003D0_0003B2_1003D1_0003B8_1003D2_0003A5,
  0x1003D3_0003A5_000301_1003D4_0003A5_000308_1003D5_0003C6_1003D6_0003C0_1003F0_0003BA,
  0x1003F1_2003F2_0003C1_1003F4_000398_1003F5_0003B5_1003F9_0003A3_100400_000415_000300,
  0x100401_000415_000308_100403_000413_000301_100407_000406_000308_10040C_00041A_000301,
  0x10040D_000418_000300_10040E_000423_000306_100419_000418_000306_100439_000438_000306,
  0x100450_000435_000300_100451_000435_000308_100453_000433_000301_100457_000456_000308,
  0x10045C_00043A_000301_10045D_000438_000300_10045E_000443_000306_100476_000474_00030F,
  0x100477_000475_00030F_1004C1_000416_000306_1004C2_000436_000306_1004D0_000410_000306,
  0x1004D1_000430_000306_1004D2_000410_000308_1004D3_000430_000308_1004D6_000415_000306,
  0x1004D7_000435_000306_1004DA_0004D8_000308_1004DB_0004D9_000308_1004DC_000416_000308,
  0x1004DD_000436_000308_1004DE_000417_000308_1004DF_000437_000308_1004E2_000418_000304,
  0x1004E3_000438_000304_1004E4_000418_000308_1004E5_000438_000308_1004E6_00041E_000308,
  0x1004E7_00043E_000308_1004EA_0004E8_000308_1004EB_0004E9_000308_1004EC_00042D_000308,
  0x1004ED_00044D_000308_1004EE_000423_000304_1004EF_000443_000304_1004F0_000423_000308,
  0x1004F1_000443_000308_1004F2_000423_00030B_1004F3_000443_00030B_1004F4_000427_000308,
  0x1004F5_000447_000308_1004F8_00042B_000308_1004F9_00044B_000308_100587_000565_000582,
  0x100622_000627_000653_100623_000627_000654_100624_000648_000654_100625_000627_000655,
  0x100626_00064A_000654_100675_000627_000674_100676_000648_000674_100677_0006C7_000674,
  0x100678_00064A_000674_1006C0_0006D5_000654_1006C2_0006C1_000654_1006D3_0006D2_000654,
  0x100929_000928_00093C_100931_000930_00093C_100934_000933_00093C_100958_000915_00093C,
  0x100959_000916_00093C_10095A_000917_00093C_10095B_00091C_00093C_10095C_000921_00093C,
  0x10095D_000922_00093C_10095E_00092B_00093C_10095F_00092F_00093C_1009CB_0009C7_0009BE,
  0x1009CC_0009C7_0009D7_1009DC_0009A1_0009BC_1009DD_0009A2_0009BC_1009DF_0009AF_0009BC,
  0x100A33_000A32_000A3C_100A36_000A38_000A3C_100A59_000A16_000A3C_100A5A_000A17_000A3C,
  0x100A5B_000A1C_000A3C_100A5E_000A2B_000A3C_100B48_000B47_000B56_100B4B_000B47_000B3E,
  0x100B4C_000B47_000B57_100B5C_000B21_000B3C_100B5D_000B22_000B3C_100B94_000B92_000BD7,
  0x100BCA_000BC6_000BBE_100BCB_000BC7_000BBE_100BCC_000BC6_000BD7_100C48_000C46_000C56,
  0x100CC0_000CBF_000CD5_100CC7_000CC6_000CD5_100CC8_000CC6_000CD6_100CCA_000CC6_000CC2,
  0x100CCB_000CC6_000CC2_000CD5_100D4A_000D46_000D3E_100D4B_000D47_000D3E_100D4C_000D46_000D57,
  0x100DDA_000DD9_000DCA_100DDC_000DD9_000DCF_100DDD_000DD9_000DCF_000DCA_100DDE_000DD9_000DDF,
  0x100E33_000E4D_000E32_100EB3_000ECD_000EB2_100EDC_000EAB_000E99_100EDD_000EAB_000EA1,
  0x100F0C_000F0B_100F43_000F42_000FB7_100F4D_000F4C_000FB7_100F52_000F51_000FB7,
  0x100F57_000F56_000FB7_100F5C_000F5B_000FB7_100F69_000F40_000FB5_100F73_000F71_000F72,
  0x100F75_000F71_000F74_100F76_000FB2_000F80_100F77_000FB2_000F71_000F80_100F78_000FB3_000F80,
  0x100F79_000FB3_000F71_000F80_100F81_000F71_000F80_100F93_000F92_000FB7_100F9D_000F9C_000FB7,
  0x100FA2_000FA1_000FB7_100FA7_000FA6_000FB7_100FAC_000FAB_000FB7_100FB9_000F90_000FB5,
  0x101026_001025_00102E_1010FC_0010DC_101B06_001B05_001B35_101B08_001B07_001B35,
  0x101B0A_001B09_001B35_101B0C_001B0B_001B35_101B0E_001B0D_001B35_101B12_001B11_001B35,
  0x101B3B_001B3A_001B35_101B3D_001B3C_001B35_101B40_001B3E_001B35_101B41_001B3F_001B35,
  0x101B43_001B42_001B35_101D2C_000041_101D2D_0000C6_101D2E_301D30_000042_101D31_301D39_000045,
  0x101D32_00018E_101D34_301D3A_000048_101D3C_00004F_101D3D_000222_101D3E_000050_101D3F_000052,
  0x101D40_201D41_000054_101D42_000057_101D43_000061_101D44_201D45_000250_101D46_001D02,
  0x101D47_000062_101D48_201D49_000064_101D4A_000259_101D4B_201D4C_00025B_101D4D_000067,
  0x101D4F_00006B_101D50_301D52_00006D_101D51_00014B_101D53_000254_101D54_201D55_001D16,
  0x101D56_000070_101D57_201D58_000074_101D59_001D1D_101D5A_00026F_101D5B_000076_101D5C_001D25,
  0x101D5D_201D5F_0003B2_101D60_201D61_0003C6_101D62_000069_101D63_000072_101D64_201D65_000075,
  0x101D66_201D67_0003B2_101D68_0003C1_101D69_201D6A_0003C6_101D78_00043D_101D9B_000252,
  0x101D9C_000063_101D9D_000255_101D9E_0000F0_101D9F_00025C_101DA0_000066_101DA1_00025F,
  0x101DA2_000261_101DA3_000265_101DA4_201DA6_000268_101DA7_001D7B_101DA8_00029D_101DA9_00026D,
  0x101DAA_001D85_101DAB_00029F_101DAC_000271_101DAD_000270_101DAE_201DB1_000272_101DB2_000278,
  0x101DB3_201DB4_000282_101DB5_0001AB_101DB6_201DB7_000289_101DB8_001D1C_101DB9_201DBA_00028B,
  0x101DBB_00007A_101DBC_201DBE_000290_101DBF_0003B8_101E00_000041_000325_101E01_000061_000325,
  0x101E02_000042_000307_101E03_000062_000307_101E04_000042_000323_101E05_000062_000323,
  0x101E06_000042_000331_101E07_000062_000331_101E08_000043_000327_000301,
  0x101E09_000063_000327_000301_101E0A_000044_000307_101E0B_000064_000307_101E0C_000044_000323,
  0x101E0D_000064_000323_101E0E_000044_000331_101E0F_000064_000331_101E10_000044_000327,
  0x101E11_000064_000327_101E12_000044_00032D_101E13_000064_00032D_101E14_000045_000304_000300,
  0x101E15_000065_000304_000300_101E16_000045_000304_000301_101E17_000065_000304_000301,
  0x101E18_000045_00032D_101E19_000065_00032D_101E1A_000045_000330_101E1B_000065_000330,
  0x101E1C_000045_000327_000306_101E1D_000065_000327_000306_101E1E_000046_000307,
  0x101E1F_000066_000307_101E20_000047_000304_101E21_000067_000304_101E22_000048_000307,
  0x101E23_000068_000307_101E24_000048_000323_101E25_000068_000323_101E26_000048_000308,
  0x101E27_000068_000308_101E28_000048_000327_101E29_000068_000327_101E2A_000048_00032E,
  0x101E2B_000068_00032E_101E2C_000049_000330_101E2D_000069_000330_101E2E_000049_000308_000301,
  0x101E2F_000069_000308_000301_101E30_00004B_000301_101E31_00006B_000301_101E32_00004B_000323,
  0x101E33_00006B_000323_101E34_00004B_000331_101E35_00006B_000331_101E36_00004C_000323,
  0x101E37_00006C_000323_101E38_00004C_000323_000304_101E39_00006C_000323_000304,
  0x101E3A_00004C_000331_101E3B_00006C_000331_101E3C_00004C_00032D_101E3D_00006C_00032D,
  0x101E3E_00004D_000301_101E3F_00006D_000301_101E40_00004D_000307_101E41_00006D_000307,
  0x101E42_00004D_000323_101E43_00006D_000323_101E44_00004E_000307_101E45_00006E_000307,
  0x101E46_00004E_000323_101E47_00006E_000323_101E48_00004E_000331_101E49_00006E_000331,
  0x101E4A_00004E_00032D_101E4B_00006E_00032D_101E4C_00004F_000303_000301,
  0x101E4D_00006F_000303_000301_101E4E_00004F_000303_000308_101E4F_00006F_000303_000308,
  0x101E50_00004F_000304_000300_101E51_00006F_000304_000300_101E52_00004F_000304_000301,
  0x101E53_00006F_000304_000301_101E54_000050_000301_101E55_000070_000301_101E56_000050_000307,
  0x101E57_000070_000307_101E58_000052_000307_101E59_000072_000307_101E5A_000052_000323,
  0x101E5B_000072_000323_101E5C_000052_000323_000304_101E5D_000072_000323_000304,
  0x101E5E_000052_000331_101E5F_000072_000331_101E60_000053_000307_101E61_000073_000307,
  0x101E62_000053_000323_101E63_000073_000323_101E64_000053_000301_000307,
  0x101E65_000073_000301_000307_101E66_000053_00030C_000307_101E67_000073_00030C_000307,
  0x101E68_000053_000323_000307_101E69_000073_000323_000307_101E6A_000054_000307,
  0x101E6B_000074_000307_101E6C_000054_000323_101E6D_000074_000323_101E6E_000054_000331,
  0x101E6F_000074_000331_101E70_000054_00032D_101E71_000074_00032D_101E72_000055_000324,
  0x101E73_000075_000324_101E74_000055_000330_101E75_000075_000330_101E76_000055_00032D,
  0x101E77_000075_00032D_101E78_000055_000303_000301_101E79_000075_000303_000301,
  0x101E7A_000055_000304_000308_101E7B_000075_000304_000308_101E7C_000056_000303,
  0x101E7D_000076_000303_101E7E_000056_000323_101E7F_000076_000323_101E80_000057_000300,
  0x101E81_000077_000300_101E82_000057_000301_101E83_000077_000301_101E84_000057_000308,
  0x101E85_000077_000308_101E86_000057_000307_101E87_000077_000307_101E88_000057_000323,
  0x101E89_000077_000323_101E8A_000058_000307_101E8B_000078_000307_101E8C_000058_000308,
  0x101E8D_000078_000308_101E8E_000059_000307_101E8F_000079_000307_101E90_00005A_000302,
  0x101E91_00007A_000302_101E92_00005A_000323_101E93_00007A_000323_101E94_00005A_000331,
  0x101E95_00007A_000331_101E96_000068_000331_101E97_000074_000308_101E98_000077_00030A,
  0x101E99_000079_00030A_101E9A_000061_0002BE_101E9B_000073_000307_101EA0_000041_000323,
  0x101EA1_000061_000323_101EA2_000041_000309_101EA3_000061_000309_101EA4_000041_000302_000301,
  0x101EA5_000061_000302_000301_101EA6_000041_000302_000300_101EA7_000061_000302_000300,
  0x101EA8_000041_000302_000309_101EA9_000061_000302_000309_101EAA_000041_000302_000303,
  0x101EAB_000061_000302_000303_101EAC_000041_000323_000302_101EAD_000061_000323_000302,
  0x101EAE_000041_000306_000301_101EAF_000061_000306_000301_101EB0_000041_000306_000300,
  0x101EB1_000061_000306_000300_101EB2_000041_000306_000309_101EB3_000061_000306_000309,
  0x101EB4_000041_000306_000303_101EB5_000061_000306_000303_101EB6_000041_000323_000306,
  0x101EB7_000061_000323_000306_101EB8_000045_000323_101EB9_000065_000323_101EBA_000045_000309,
  0x101EBB_000065_000309_101EBC_000045_000303_101EBD_000065_000303_101EBE_000045_000302_000301,
  0x101EBF_000065_000302_000301_101EC0_000045_000302_000300_101EC1_000065_000302_000300,
  0x101EC2_000045_000302_000309_101EC3_000065_000302_000309_101EC4_000045_000302_000303,
  0x101EC5_000065_000302_000303_101EC6_000045_000323_000302_101EC7_000065_000323_000302,
  0x101EC8_000049_000309_101EC9_000069_000309_101ECA_000049_000323_101ECB_000069_000323,
  0x101ECC_00004F_000323_101ECD_00006F_000323_101ECE_00004F_000309_101ECF_00006F_000309,
  0x101ED0_00004F_000302_000301_101ED1_00006F_000302_000301_101ED2_00004F_000302_000300,
  0x101ED3_00006F_000302_000300_101ED4_00004F_000302_000309_101ED5_00006F_000302_000309,
  0x101ED6_00004F_000302_000303_101ED7_00006F_000302_000303_101ED8_00004F_000323_000302,
  0x101ED9_00006F_000323_000302_101EDA_00004F_00031B_000301_101EDB_00006F_00031B_000301,
  0x101EDC_00004F_00031B_000300_101EDD_00006F_00031B_000300_101EDE_00004F_00031B_000309,
  0x101EDF_00006F_00031B_000309_101EE0_00004F_00031B_000303_101EE1_00006F_00031B_000303,
  0x101EE2_00004F_00031B_000323_101EE3_00006F_00031B_000323_101EE4_000055_000323,
  0x101EE5_000075_000323_101EE6_000055_000309_101EE7_000075_000309_101EE8_000055_00031B_000301,
  0x101EE9_000075_00031B_000301_101EEA_000055_00031B_000300_101EEB_000075_00031B_000300,
  0x101EEC_000055_00031B_000309_101EED_000075_00031B_000309_101EEE_000055_00031B_000303,
  0x101EEF_000075_00031B_000303_101EF0_000055_00031B_000323_101EF1_000075_00031B_000323,
  0x101EF2_000059_000300_101EF3_000079_000300_101EF4_000059_000323_101EF5_000079_000323,
  0x101EF6_000059_000309_101EF7_000079_000309_101EF8_000059_000303_101EF9_000079_000303,
  0x101F00_0003B1_000313_101F01_0003B1_000314_101F02_0003B1_000313_000300,
  0x101F03_0003B1_000314_000300_101F04_0003B1_000313_000301_101F05_0003B1_000314_000301,
  0x101F06_0003B1_000313_000342_101F07_0003B1_000314_000342_101F08_000391_000313,
  0x101F09_000391_000314_101F0A_000391_000313_000300_101F0B_000391_000314_000300,
  0x101F0C_000391_000313_000301_101F0D_000391_000314_000301_101F0E_000391_000313_000342,
  0x101F0F_000391_000314_000342_101F10_0003B5_000313_101F11_0003B5_000314,
  0x101F12_0003B5_000313_000300_101F13_0003B5_000314_000300_101F14_0003B5_000313_000301,
  0x101F15_0003B5_000314_000301_101F18_000395_000313_101F19_000395_000314,
  0x101F1A_000395_000313_000300_101F1B_000395_000314_000300_101F1C_000395_000313_000301,
  0x101F1D_000395_000314_000301_101F20_0003B7_000313_101F21_0003B7_000314,
  0x101F22_0003B7_000313_000300_101F23_0003B7_000314_000300_101F24_0003B7_000313_000301,
  0x101F25_0003B7_000314_000301_101F26_0003B7_000313_000342_101F27_0003B7_000314_000342,
  0x101F28_000397_000313_101F29_000397_000314_101F2A_000397_000313_000300,
  0x101F2B_000397_000314_000300_101F2C_000397_000313_000301_101F2D_000397_000314_000301,
  0x101F2E_000397_000313_000342_101F2F_000397_000314_000342_101F30_0003B9_000313,
  0x101F31_0003B9_000314_101F32_0003B9_000313_000300_101F33_0003B9_000314_000300,
  0x101F34_0003B9_000313_000301_101F35_0003B9_000314_000301_101F36_0003B9_000313_000342,
  0x101F37_0003B9_000314_000342_101F38_000399_000313_101F39_000399_000314,
  0x101F3A_000399_000313_000300_101F3B_000399_000314_000300_101F3C_000399_000313_000301,
  0x101F3D_000399_000314_000301_101F3E_000399_000313_000342_101F3F_000399_000314_000342,
  0x101F40_0003BF_000313_101F41_0003BF_000314_101F42_0003BF_000313_000300,
  0x101F43_0003BF_000314_000300_101F44_0003BF_000313_000301_101F45_0003BF_000314_000301,
  0x101F48_00039F_000313_101F49_00039F_000314_101F4A_00039F_000313_000300,
  0x101F4B_00039F_000314_000300_101F4C_00039F_000313_000301_101F4D_00039F_000314_000301,
  0x101F50_0003C5_000313_101F51_0003C5_000314_101F52_0003C5_000313_000300,
  0x101F53_0003C5_000314_000300_101F54_0003C5_000313_000301_101F55_0003C5_000314_000301,
  0x101F56_0003C5_000313_000342_101F57_0003C5_000314_000342_101F59_0003A5_000314,
  0x101F5B_0003A5_000314_000300_101F5D_0003A5_000314_000301_101F5F_0003A5_000314_000342,
  0x101F60_0003C9_000313_101F61_0003C9_000314_101F62_0003C9_000313_000300,
  0x101F63_0003C9_000314_000300_101F64_0003C9_000313_000301_101F65_0003C9_000314_000301,
  0x101F66_0003C9_000313_000342_101F67_0003C9_000314_000342_101F68_0003A9_000313,
  0x101F69_0003A9_000314_101F6A_0003A9_000313_000300_101F6B_0003A9_000314_000300,
  0x101F6C_0003A9_000313_000301_101F6D_0003A9_000314_000301_101F6E_0003A9_000313_000342,
  0x101F6F_0003A9_000314_000342_101F70_0003B1_000300_101F71_0003B1_000301_101F72_0003B5_000300,
  0x101F73_0003B5_000301_101F74_0003B7_000300_101F75_0003B7_000301_101F76_0003B9_000300,
  0x101F77_0003B9_000301_101F78_0003BF_000300_101F79_0003BF_000301_101F7A_0003C5_000300,
  0x101F7B_0003C5_000301_101F7C_0003C9_000300_101F7D_0003C9_000301_101F80_0003B1_000313_000345,
  0x101F81_0003B1_000314_000345_101F82_0003B1_000313_000300_000345,
  0x101F83_0003B1_000314_000300_000345_101F84_0003B1_000313_000301_000345,
  0x101F85_0003B1_000314_000301_000345_101F86_0003B1_000313_000342_000345,
  0x101F87_0003B1_000314_000342_000345_101F88_000391_000313_000345_101F89_000391_000314_000345,
  0x101F8A_000391_000313_000300_000345_101F8B_000391_000314_000300_000345,
  0x101F8C_000391_000313_000301_000345_101F8D_000391_000314_000301_000345,
  0x101F8E_000391_000313_000342_000345_101F8F_000391_000314_000342_000345,
  0x101F90_0003B7_000313_000345_101F91_0003B7_000314_000345_101F92_0003B7_000313_000300_000345,
  0x101F93_0003B7_000314_000300_000345_101F94_0003B7_000313_000301_000345,
  0x101F95_0003B7_000314_000301_000345_101F96_0003B7_000313_000342_000345,
  0x101F97_0003B7_000314_000342_000345_101F98_000397_000313_000345_101F99_000397_000314_000345,
  0x101F9A_000397_000313_000300_000345_101F9B_000397_000314_000300_000345,
  0x101F9C_000397_000313_000301_000345_101F9D_000397_000314_000301_000345,
  0x101F9E_000397_000313_000342_000345_101F9F_000397_000314_000342_000345,
  0x101FA0_0003C9_000313_000345_101FA1_0003C9_000314_000345_101FA2_0003C9_000313_000300_000345,
  0x101FA3_0003C9_000314_000300_000345_101FA4_0003C9_000313_000301_000345,
  0x101FA5_0003C9_000314_000301_000345_101FA6_0003C9_000313_000342_000345,
  0x101FA7_0003C9_000314_000342_000345_101FA8_0003A9_000313_000345_101FA9_0003A9_000314_000345,
  0x101FAA_0003A9_000313_000300_000345_101FAB_0003A9_000314_000300_000345,
  0x101FAC_0003A9_000313_000301_000345_101FAD_0003A9_000314_000301_000345,
  0x101FAE_0003A9_000313_000342_000345_101FAF_0003A9_000314_000342_000345_101FB0_0003B1_000306,
  0x101FB1_0003B1_000304_101FB2_0003B1_000300_000345_101FB3_0003B1_000345,
  0x101FB4_0003B1_000301_000345_101FB6_0003B1_000342_101FB7_0003B1_000342_000345,
  0x101FB8_000391_000306_101FB9_000391_000304_101FBA_000391_000300_101FBB_000391_000301,
  0x101FBC_000391_000345_101FBD_000020_000313_101FBE_0003B9_101FBF_000020_000313,
  0x101FC0_000020_000342_101FC1_000020_000308_000342_101FC2_0003B7_000300_000345,
  0x101FC3_0003B7_000345_101FC4_0003B7_000301_000345_101FC6_0003B7_000342,
  0x101FC7_0003B7_000342_000345_101FC8_000395_000300_101FC9_000395_000301_101FCA_000397_000300,
  0x101FCB_000397_000301_101FCC_000397_000345_101FCD_000020_000313_000300,
  0x101FCE_000020_000313_000301_101FCF_000020_000313_000342_101FD0_0003B9_000306,
  0x101FD1_0003B9_000304_101FD2_0003B9_000308_000300_101FD3_0003B9_000308_000301,
  0x101FD6_0003B9_000342_101FD7_0003B9_000308_000342_101FD8_000399_000306_101FD9_000399_000304,
  0x101FDA_000399_000300_101FDB_000399_000301_101FDD_000020_000314_000300,
  0x101FDE_000020_000314_000301_101FDF_000020_000314_000342_101FE0_0003C5_000306,
  0x101FE1_0003C5_000304_101FE2_0003C5_000308_000300_101FE3_0003C5_000308_000301,
  0x101FE4_0003C1_000313_101FE5_0003C1_000314_101FE6_0003C5_000342_101FE7_0003C5_000308_000342,
  0x101FE8_0003A5_000306_101FE9_0003A5_000304_101FEA_0003A5_000300_101FEB_0003A5_000301,
  0x101FEC_0003A1_000314_101FED_000020_000308_000300_101FEE_000020_000308_000301_101FEF_000060,
  0x101FF2_0003C9_000300_000345_101FF3_0003C9_000345_101FF4_0003C9_000301_000345,
  0x101FF6_0003C9_000342_101FF7_0003C9_000342_000345_101FF8_00039F_000300_101FF9_00039F_000301,
  0x101FFA_0003A9_000300_101FFB_0003A9_000301_101FFC_0003A9_000345_101FFD_000020_000301,
  0x101FFE_000020_000314_102000_000020_102001_000020_102002_000020_102003_000020_102004_000020,
  0x102005_000020_102006_000020_102007_000020_102008_000020_102009_000020_10200A_000020,
  0x102011_002010_102017_000020_000333_102024_00002E_102025_00002E_00002E,
  0x102026_00002E_00002E_00002E_10202F_000020_102033_002032_002032_102034_002032_002032_002032,
  0x102036_002035_002035_102037_002035_002035_002035_10203C_000021_000021_10203E_000020_000305,
  0x102047_00003F_00003F_102048_00003F_000021_102049_000021_00003F,
  0x102057_002032_002032_002032_002032_10205F_000020_102070_000030_102071_000069,
  0x102074_202079_000034_10207A_00002B_10207B_002212_10207C_00003D_10207D_20207E_000028,
  0x10207F_00006E_102080_202089_000030_10208A_00002B_10208B_002212_10208C_00003D,
  0x10208D_20208E_000028_102090_000061_102091_000065_102092_00006F_102093_000078_102094_000259,
  0x102095_000068_102096_202099_00006B_10209A_000070_10209B_20209C_000073_1020A8_000052_000073,
  0x102100_000061_00002F_000063_102101_000061_00002F_000073_102102_000043_102103_0000B0_000043,
  0x102105_000063_00002F_00006F_102106_000063_00002F_000075_102107_000190_102109_0000B0_000046,
  0x10210A_000067_10210B_000048_10210C_000048_10210D_000048_10210E_000068_10210F_000127,
  0x102110_000049_102111_000049_102112_00004C_102113_00006C_102115_00004E_102116_00004E_00006F,
  0x102119_20211B_000050_10211C_000052_10211D_000052_102120_000053_00004D,
  0x102121_000054_000045_00004C_102122_000054_00004D_102124_00005A_102126_0003A9_102128_00005A,
  0x10212A_00004B_10212B_000041_00030A_10212C_20212D_000042_10212F_000065_102130_202131_000045,
  0x102133_00004D_102134_00006F_102135_202138_0005D0_102139_000069_10213B_000046_000041_000058,
  0x10213C_0003C0_10213D_0003B3_10213E_000393_10213F_0003A0_102140_002211_102145_000044,
  0x102146_202147_000064_102148_202149_000069_102150_000031_002044_000037,
  0x102151_000031_002044_000039_102152_000031_002044_000031_000030_102153_000031_002044_000033,
  0x102154_000032_002044_000033_102155_000031_002044_000035_102156_000032_002044_000035,
  0x102157_000033_002044_000035_102158_000034_002044_000035_102159_000031_002044_000036,
  0x10215A_000035_002044_000036_10215B_000031_002044_000038_10215C_000033_002044_000038,
  0x10215D_000035_002044_000038_10215E_000037_002044_000038_10215F_000031_002044_102160_000049,
  0x102161_000049_000049_102162_000049_000049_000049_102163_000049_000056_102164_000056,
  0x102165_000056_000049_102166_000056_000049_000049_102167_000056_000049_000049_000049,
  0x102168_000049_000058_102169_000058_10216A_000058_000049_10216B_000058_000049_000049,
  0x10216C_00004C_10216D_20216E_000043_10216F_00004D_102170_000069_102171_000069_000069,
  0x102172_000069_000069_000069_102173_000069_000076_102174_000076_102175_000076_000069,
  0x102176_000076_000069_000069_102177_000076_000069_000069_000069_102178_000069_000078,
  0x102179_000078_10217A_000078_000069_10217B_000078_000069_000069_10217C_00006C,
  0x10217D_20217E_000063_10217F_00006D_102189_000030_002044_000033_10219A_002190_000338,
  0x10219B_002192_000338_1021AE_002194_000338_1021CD_0021D0_000338_1021CE_0021D4_000338,
  0x1021CF_0021D2_000338_102204_002203_000338_102209_002208_000338_10220C_00220B_000338,
  0x102224_002223_000338_102226_002225_000338_10222C_00222B_00222B_10222D_00222B_00222B_00222B,
  0x10222F_00222E_00222E_102230_00222E_00222E_00222E_102241_00223C_000338_102244_002243_000338,
  0x102247_002245_000338_102249_002248_000338_102260_00003D_000338_102262_002261_000338,
  0x10226D_00224D_000338_10226E_00003C_000338_10226F_00003E_000338_102270_002264_000338,
  0x102271_002265_000338_102274_002272_000338_102275_002273_000338_102278_002276_000338,
  0x102279_002277_000338_102280_00227A_000338_102281_00227B_000338_102284_002282_000338,
  0x102285_002283_000338_102288_002286_000338_102289_002287_000338_1022AC_0022A2_000338,
  0x1022AD_0022A8_000338_1022AE_0022A9_000338_1022AF_0022AB_000338_1022E0_00227C_000338,
  0x1022E1_00227D_000338_1022E2_002291_000338_1022E3_002292_000338_1022EA_0022B2_000338,
  0x1022EB_0022B3_000338_1022EC_0022B4_000338_1022ED_0022B5_000338_102329_20232A_003008,
  0x102460_202468_000031_102469_000031_000030_10246A_000031_000031_10246B_000031_000032,
  0x10246C_000031_000033_10246D_000031_000034_10246E_000031_000035_10246F_000031_000036,
  0x102470_000031_000037_102471_000031_000038_102472_000031_000039_102473_000032_000030,
  0x102474_000028_000031_000029_102475_000028_000032_000029_102476_000028_000033_000029,
  0x102477_000028_000034_000029_102478_000028_000035_000029_102479_000028_000036_000029,
  0x10247A_000028_000037_000029_10247B_000028_000038_000029_10247C_000028_000039_000029,
  0x10247D_000028_000031_000030_000029_10247E_000028_000031_000031_000029,
  0x10247F_000028_000031_000032_000029_102480_000028_000031_000033_000029,
  0x102481_000028_000031_000034_000029_102482_000028_000031_000035_000029,
  0x102483_000028_000031_000036_000029_102484_000028_000031_000037_000029,
  0x102485_000028_000031_000038_000029_102486_000028_000031_000039_000029,
  0x102487_000028_000032_000030_000029_102488_000031_00002E_102489_000032_00002E,
  0x10248A_000033_00002E_10248B_000034_00002E_10248C_000035_00002E_10248D_000036_00002E,
  0x10248E_000037_00002E_10248F_000038_00002E_102490_000039_00002E_102491_000031_000030_00002E,
  0x102492_000031_000031_00002E_102493_000031_000032_00002E_102494_000031_000033_00002E,
  0x102495_000031_000034_00002E_102496_000031_000035_00002E_102497_000031_000036_00002E,
  0x102498_000031_000037_00002E_102499_000031_000038_00002E_10249A_000031_000039_00002E,
  0x10249B_000032_000030_00002E_10249C_000028_000061_000029_10249D_000028_000062_000029,
  0x10249E_000028_000063_000029_10249F_000028_000064_000029_1024A0_000028_000065_000029,
  0x1024A1_000028_000066_000029_1024A2_000028_000067_000029_1024A3_000028_000068_000029,
  0x1024A4_000028_000069_000029_1024A5_000028_00006A_000029_1024A6_000028_00006B_000029,
  0x1024A7_000028_00006C_000029_1024A8_000028_00006D_000029_1024A9_000028_00006E_000029,
  0x1024AA_000028_00006F_000029_1024AB_000028_000070_000029_1024AC_000028_000071_000029,
  0x1024AD_000028_000072_000029_1024AE_000028_000073_000029_1024AF_000028_000074_000029,
  0x1024B0_000028_000075_000029_1024B1_000028_000076_000029_1024B2_000028_000077_000029,
  0x1024B3_000028_000078_000029_1024B4_000028_000079_000029_1024B5_000028_00007A_000029,
  0x1024B6_2024CF_000041_1024D0_2024E9_000061_1024EA_000030_102A0C_00222B_00222B_00222B_00222B,
  0x102A74_00003A_00003A_00003D_102A75_00003D_00003D_102A76_00003D_00003D_00003D,
  0x102ADC_002ADD_000338_102C7C_00006A_102C7D_000056_102D6F_002D61_102E9F_006BCD_102EF3_009F9F,
  0x102F00_004E00_102F01_004E28_102F02_004E36_102F03_004E3F_102F04_004E59_102F05_004E85,
  0x102F06_004E8C_102F07_004EA0_102F08_004EBA_102F09_00513F_102F0A_005165_102F0B_00516B,
  0x102F0C_005182_102F0D_005196_102F0E_0051AB_102F0F_0051E0_102F10_0051F5_102F11_005200,
  0x102F12_00529B_102F13_0052F9_102F14_005315_102F15_00531A_102F16_005338_102F17_005341,
  0x102F18_00535C_102F19_005369_102F1A_005382_102F1B_0053B6_102F1C_0053C8_102F1D_0053E3,
  0x102F1E_0056D7_102F1F_00571F_102F20_0058EB_102F21_005902_102F22_00590A_102F23_005915,
  0x102F24_005927_102F25_005973_102F26_005B50_102F27_005B80_102F28_005BF8_102F29_005C0F,
  0x102F2A_005C22_102F2B_005C38_102F2C_005C6E_102F2D_005C71_102F2E_005DDB_102F2F_005DE5,
  0x102F30_005DF1_102F31_005DFE_102F32_005E72_102F33_005E7A_102F34_005E7F_102F35_005EF4,
  0x102F36_005EFE_102F37_005F0B_102F38_005F13_102F39_005F50_102F3A_005F61_102F3B_005F73,
  0x102F3C_005FC3_102F3D_006208_102F3E_006236_102F3F_00624B_102F40_00652F_102F41_006534,
  0x102F42_006587_102F43_006597_102F44_0065A4_102F45_0065B9_102F46_0065E0_102F47_0065E5,
  0x102F48_0066F0_102F49_006708_102F4A_006728_102F4B_006B20_102F4C_006B62_102F4D_006B79,
  0x102F4E_006BB3_102F4F_006BCB_102F50_006BD4_102F51_006BDB_102F52_006C0F_102F53_006C14,
  0x102F54_006C34_102F55_00706B_102F56_00722A_102F57_007236_102F58_00723B_102F59_00723F,
  0x102F5A_007247_102F5B_007259_102F5C_00725B_102F5D_0072AC_102F5E_007384_102F5F_007389,
  0x102F60_0074DC_102F61_0074E6_102F62_007518_102F63_00751F_102F64_007528_102F65_007530,
  0x102F66_00758B_102F67_007592_102F68_007676_102F69_00767D_102F6A_0076AE_102F6B_0076BF,
  0x102F6C_0076EE_102F6D_0077DB_102F6E_0077E2_102F6F_0077F3_102F70_00793A_102F71_0079B8,
  0x102F72_0079BE_102F73_007A74_102F74_007ACB_102F75_007AF9_102F76_007C73_102F77_007CF8,
  0x102F78_007F36_102F79_007F51_102F7A_007F8A_102F7B_007FBD_102F7C_008001_102F7D_00800C,
  0x102F7E_008012_102F7F_008033_102F80_00807F_102F81_008089_102F82_0081E3_102F83_0081EA,
  0x102F84_0081F3_102F85_0081FC_102F86_00820C_102F87_00821B_102F88_00821F_102F89_00826E,
  0x102F8A_008272_102F8B_008278_102F8C_00864D_102F8D_00866B_102F8E_008840_102F8F_00884C,
  0x102F90_008863_102F91_00897E_102F92_00898B_102F93_0089D2_102F94_008A00_102F95_008C37,
  0x102F96_008C46_102F97_008C55_102F98_008C78_102F99_008C9D_102F9A_008D64_102F9B_008D70,
  0x102F9C_008DB3_102F9D_008EAB_102F9E_008ECA_102F9F_008F9B_102FA0_008FB0_102FA1_008FB5,
  0x102FA2_009091_102FA3_009149_102FA4_0091C6_102FA5_0091CC_102FA6_0091D1_102FA7_009577,
  0x102FA8_009580_102FA9_00961C_102FAA_0096B6_102FAB_0096B9_102FAC_0096E8_102FAD_009751,
  0x102FAE_00975E_102FAF_009762_102FB0_009769_102FB1_0097CB_102FB2_0097ED_102FB3_0097F3,
  0x102FB4_009801_102FB5_0098A8_102FB6_0098DB_102FB7_0098DF_102FB8_009996_102FB9_009999,
  0x102FBA_0099AC_102FBB_009AA8_102FBC_009AD8_102FBD_009ADF_102FBE_009B25_102FBF_009B2F,
  0x102FC0_009B32_102FC1_009B3C_102FC2_009B5A_102FC3_009CE5_102FC4_009E75_102FC5_009E7F,
  0x102FC6_009EA5_102FC7_009EBB_102FC8_009EC3_102FC9_009ECD_102FCA_009ED1_102FCB_009EF9,
  0x102FCC_009EFD_102FCD_009F0E_102FCE_009F13_102FCF_009F20_102FD0_009F3B_102FD1_009F4A,
  0x102FD2_009F52_102FD3_009F8D_102FD4_009F9C_102FD5_009FA0_103000_000020_103036_003012,
  0x103038_005341_103039_20303A_005344_10304C_00304B_003099_10304E_00304D_003099,
  0x103050_00304F_003099_103052_003051_003099_103054_003053_003099_103056_003055_003099,
  0x103058_003057_003099_10305A_003059_003099_10305C_00305B_003099_10305E_00305D_003099,
  0x103060_00305F_003099_103062_003061_003099_103065_003064_003099_103067_003066_003099,
  0x103069_003068_003099_103070_00306F_003099_103071_00306F_00309A_103073_003072_003099,
  0x103074_003072_00309A_103076_003075_003099_103077_003075_00309A_103079_003078_003099,
  0x10307A_003078_00309A_10307C_00307B_003099_10307D_00307B_00309A_103094_003046_003099,
  0x10309B_000020_003099_10309C_000020_00309A_10309E_00309D_003099_10309F_003088_00308A,
  0x1030AC_0030AB_003099_1030AE_0030AD_003099_1030B0_0030AF_003099_1030B2_0030B1_003099,
  0x1030B4_0030B3_003099_1030B6_0030B5_003099_1030B8_0030B7_003099_1030BA_0030B9_003099,
  0x1030BC_0030BB_003099_1030BE_0030BD_003099_1030C0_0030BF_003099_1030C2_0030C1_003099,
  0x1030C5_0030C4_003099_1030C7_0030C6_003099_1030C9_0030C8_003099_1030D0_0030CF_003099,
  0x1030D1_0030CF_00309A_1030D3_0030D2_003099_1030D4_0030D2_00309A_1030D6_0030D5_003099,
  0x1030D7_0030D5_00309A_1030D9_0030D8_003099_1030DA_0030D8_00309A_1030DC_0030DB_003099,
  0x1030DD_0030DB_00309A_1030F4_0030A6_003099_1030F7_0030EF_003099_1030F8_0030F0_003099,
  0x1030F9_0030F1_003099_1030FA_0030F2_003099_1030FE_0030FD_003099_1030FF_0030B3_0030C8,
  0x103131_203132_001100_103133_303135_0011AA_103134_001102_103136_0011AD_103137_203139_001103,
  0x10313A_20313F_0011B0_103140_00111A_103141_203143_001106_103144_001121_103145_20314E_001109,
  0x10314F_203163_001161_103164_001160_103165_203166_001114_103167_203168_0011C7_103169_0011CC,
  0x10316A_0011CE_10316B_0011D3_10316C_0011D7_10316D_0011D9_10316E_00111C_10316F_0011DD,
  0x103170_0011DF_103171_203172_00111D_103173_001120_103174_203175_001122_103176_001127,
  0x103177_001129_103178_20317C_00112B_10317D_001132_10317E_001136_10317F_001140_103180_001147,
  0x103181_00114C_103182_203183_0011F1_103184_203186_001157_103187_203188_001184_103189_001188,
  0x10318A_20318B_001191_10318C_001194_10318D_00119E_10318E_0011A1_103192_004E00_103193_004E8C,
  0x103194_004E09_103195_0056DB_103196_004E0A_103197_004E2D_103198_004E0B_103199_007532,
  0x10319A_004E59_10319B_004E19_10319C_004E01_10319D_005929_10319E_005730_10319F_004EBA,
  0x103200_000028_001100_000029_103201_000028_001102_000029_103202_000028_001103_000029,
  0x103203_000028_001105_000029_103204_000028_001106_000029_103205_000028_001107_000029,
  0x103206_000028_001109_000029_103207_000028_00110B_000029_103208_000028_00110C_000029,
  0x103209_000028_00110E_000029_10320A_000028_00110F_000029_10320B_000028_001110_000029,
  0x10320C_000028_001111_000029_10320D_000028_001112_000029_10320E_000028_001100_001161_000029,
  0x10320F_000028_001102_001161_000029_103210_000028_001103_001161_000029,
  0x103211_000028_001105_001161_000029_103212_000028_001106_001161_000029,
  0x103213_000028_001107_001161_000029_103214_000028_001109_001161_000029,
  0x103215_000028_00110B_001161_000029_103216_000028_00110C_001161_000029,
  0x103217_000028_00110E_001161_000029_103218_000028_00110F_001161_000029,
  0x103219_000028_001110_001161_000029_10321A_000028_001111_001161_000029,
  0x10321B_000028_001112_001161_000029_10321C_000028_00110C_00116E_000029,
  0x10321D_000028_00110B_001169_00110C_001165_0011AB_000029,
  0x10321E_000028_00110B_001169_001112_00116E_000029_103220_000028_004E00_000029,
  0x103221_000028_004E8C_000029_103222_000028_004E09_000029_103223_000028_0056DB_000029,
  0x103224_000028_004E94_000029_103225_000028_00516D_000029_103226_000028_004E03_000029,
  0x103227_000028_00516B_000029_103228_000028_004E5D_000029_103229_000028_005341_000029,
  0x10322A_000028_006708_000029_10322B_000028_00706B_000029_10322C_000028_006C34_000029,
  0x10322D_000028_006728_000029_10322E_000028_0091D1_000029_10322F_000028_00571F_000029,
  0x103230_000028_0065E5_000029_103231_000028_00682A_000029_103232_000028_006709_000029,
  0x103233_000028_00793E_000029_103234_000028_00540D_000029_103235_000028_007279_000029,
  0x103236_000028_008CA1_000029_103237_000028_00795D_000029_103238_000028_0052B4_000029,
  0x103239_000028_004EE3_000029_10323A_000028_00547C_000029_10323B_000028_005B66_000029,
  0x10323C_000028_0076E3_000029_10323D_000028_004F01_000029_10323E_000028_008CC7_000029,
  0x10323F_000028_005354_000029_103240_000028_00796D_000029_103241_000028_004F11_000029,
  0x103242_000028_0081EA_000029_103243_000028_0081F3_000029_103244_00554F_103245_005E7C,
  0x103246_006587_103247_007B8F_103250_000050_000054_000045_103251_000032_000031,
  0x103252_000032_000032_103253_000032_000033_103254_000032_000034_103255_000032_000035,
  0x103256_000032_000036_103257_000032_000037_103258_000032_000038_103259_000032_000039,
  0x10325A_000033_000030_10325B_000033_000031_10325C_000033_000032_10325D_000033_000033,
  0x10325E_000033_000034_10325F_000033_000035_103260_001100_103261_203262_001102,
  0x103263_203265_001105_103266_001109_103267_203268_00110B_103269_20326D_00110E,
  0x10326E_001100_001161_10326F_001102_001161_103270_001103_001161_103271_001105_001161,
  0x103272_001106_001161_103273_001107_001161_103274_001109_001161_103275_00110B_001161,
  0x103276_00110C_001161_103277_00110E_001161_103278_00110F_001161_103279_001110_001161,
  0x10327A_001111_001161_10327B_001112_001161_10327C_00110E_001161_0011B7_001100_001169,
  0x10327D_00110C_00116E_00110B_001174_10327E_00110B_00116E_103280_004E00_103281_004E8C,
  0x103282_004E09_103283_0056DB_103284_004E94_103285_00516D_103286_004E03_103287_00516B,
  0x103288_004E5D_103289_005341_10328A_006708_10328B_00706B_10328C_006C34_10328D_006728,
  0x10328E_0091D1_10328F_00571F_103290_0065E5_103291_00682A_103292_006709_103293_00793E,
  0x103294_00540D_103295_007279_103296_008CA1_103297_00795D_103298_0052B4_103299_0079D8,
  0x10329A_007537_10329B_005973_10329C_009069_10329D_00512A_10329E_005370_10329F_006CE8,
  0x1032A0_009805_1032A1_004F11_1032A2_005199_1032A3_006B63_1032A4_004E0A_1032A5_004E2D,
  0x1032A6_004E0B_1032A7_005DE6_1032A8_0053F3_1032A9_00533B_1032AA_005B97_1032AB_005B66,
  0x1032AC_0076E3_1032AD_004F01_1032AE_008CC7_1032AF_005354_1032B0_00591C_1032B1_000033_000036,
  0x1032B2_000033_000037_1032B3_000033_000038_1032B4_000033_000039_1032B5_000034_000030,
  0x1032B6_000034_000031_1032B7_000034_000032_1032B8_000034_000033_1032B9_000034_000034,
  0x1032BA_000034_000035_1032BB_000034_000036_1032BC_000034_000037_1032BD_000034_000038,
  0x1032BE_000034_000039_1032BF_000035_000030_1032C0_000031_006708_1032C1_000032_006708,
  0x1032C2_000033_006708_1032C3_000034_006708_1032C4_000035_006708_1032C5_000036_006708,
  0x1032C6_000037_006708_1032C7_000038_006708_1032C8_000039_006708_1032C9_000031_000030_006708,
  0x1032CA_000031_000031_006708_1032CB_000031_000032_006708_1032CC_000048_000067,
  0x1032CD_000065_000072_000067_1032CE_000065_000056_1032CF_00004C_000054_000044_1032D0_0030A2,
  0x1032D1_0030A4_1032D2_0030A6_1032D3_0030A8_1032D4_2032D5_0030AA_1032D6_0030AD_1032D7_0030AF,
  0x1032D8_0030B1_1032D9_0030B3_1032DA_0030B5_1032DB_0030B7_1032DC_0030B9_1032DD_0030BB,
  0x1032DE_0030BD_1032DF_0030BF_1032E0_0030C1_1032E1_0030C4_1032E2_0030C6_1032E3_0030C8,
  0x1032E4_2032E9_0030CA_1032EA_0030D2_1032EB_0030D5_1032EC_0030D8_1032ED_0030DB,
  0x1032EE_2032F2_0030DE_1032F3_0030E4_1032F4_0030E6_1032F5_2032FA_0030E8_1032FB_2032FE_0030EF,
  0x1032FF_004EE4_00548C_103300_0030A2_0030CF_00309A_0030FC_0030C8,
  0x103301_0030A2_0030EB_0030D5_0030A1_103302_0030A2_0030F3_0030D8_00309A_0030A2,
  0x103303_0030A2_0030FC_0030EB_103304_0030A4_0030CB_0030F3_0030AF_003099,
  0x103305_0030A4_0030F3_0030C1_103306_0030A6_0030A9_0030F3,
  0x103307_0030A8_0030B9_0030AF_0030FC_0030C8_003099_103308_0030A8_0030FC_0030AB_0030FC,
  0x103309_0030AA_0030F3_0030B9_10330A_0030AA_0030FC_0030E0_10330B_0030AB_0030A4_0030EA,
  0x10330C_0030AB_0030E9_0030C3_0030C8_10330D_0030AB_0030ED_0030EA_0030FC,
  0x10330E_0030AB_003099_0030ED_0030F3_10330F_0030AB_003099_0030F3_0030DE,
  0x103310_0030AD_003099_0030AB_003099_103311_0030AD_003099_0030CB_0030FC,
  0x103312_0030AD_0030E5_0030EA_0030FC_103313_0030AD_003099_0030EB_0030BF_003099_0030FC,
  0x103314_0030AD_0030ED_103315_0030AD_0030ED_0030AF_003099_0030E9_0030E0,
  0x103316_0030AD_0030ED_0030E1_0030FC_0030C8_0030EB_103317_0030AD_0030ED_0030EF_0030C3_0030C8,
  0x103318_0030AF_003099_0030E9_0030E0_103319_0030AF_003099_0030E9_0030E0_0030C8_0030F3,
  0x10331A_0030AF_0030EB_0030BB_003099_0030A4_0030ED_10331B_0030AF_0030ED_0030FC_0030CD,
  0x10331C_0030B1_0030FC_0030B9_10331D_0030B3_0030EB_0030CA_10331E_0030B3_0030FC_0030DB_00309A,
  0x10331F_0030B5_0030A4_0030AF_0030EB_103320_0030B5_0030F3_0030C1_0030FC_0030E0,
  0x103321_0030B7_0030EA_0030F3_0030AF_003099_103322_0030BB_0030F3_0030C1,
  0x103323_0030BB_0030F3_0030C8_103324_0030BF_003099_0030FC_0030B9_103325_0030C6_003099_0030B7,
  0x103326_0030C8_003099_0030EB_103327_0030C8_0030F3_103328_0030CA_0030CE,
  0x103329_0030CE_0030C3_0030C8_10332A_0030CF_0030A4_0030C4,
  0x10332B_0030CF_00309A_0030FC_0030BB_0030F3_0030C8_10332C_0030CF_00309A_0030FC_0030C4,
  0x10332D_0030CF_003099_0030FC_0030EC_0030EB_10332E_0030D2_00309A_0030A2_0030B9_0030C8_0030EB,
  0x10332F_0030D2_00309A_0030AF_0030EB_103330_0030D2_00309A_0030B3_103331_0030D2_003099_0030EB,
  0x103332_0030D5_0030A1_0030E9_0030C3_0030C8_003099_103333_0030D5_0030A3_0030FC_0030C8,
  0x103334_0030D5_003099_0030C3_0030B7_0030A7_0030EB_103335_0030D5_0030E9_0030F3,
  0x103336_0030D8_0030AF_0030BF_0030FC_0030EB_103337_0030D8_00309A_0030BD,
  0x103338_0030D8_00309A_0030CB_0030D2_103339_0030D8_0030EB_0030C4,
  0x10333A_0030D8_00309A_0030F3_0030B9_10333B_0030D8_00309A_0030FC_0030B7_003099,
  0x10333C_0030D8_003099_0030FC_0030BF_10333D_0030DB_00309A_0030A4_0030F3_0030C8,
  0x10333E_0030DB_003099_0030EB_0030C8_10333F_0030DB_0030F3,
  0x103340_0030DB_00309A_0030F3_0030C8_003099_103341_0030DB_0030FC_0030EB,
  0x103342_0030DB_0030FC_0030F3_103343_0030DE_0030A4_0030AF_0030ED_103344_0030DE_0030A4_0030EB,
  0x103345_0030DE_0030C3_0030CF_103346_0030DE_0030EB_0030AF,
  0x103347_0030DE_0030F3_0030B7_0030E7_0030F3_103348_0030DF_0030AF_0030ED_0030F3,
  0x103349_0030DF_0030EA_10334A_0030DF_0030EA_0030CF_003099_0030FC_0030EB,
  0x10334B_0030E1_0030AB_003099_10334C_0030E1_0030AB_003099_0030C8_0030F3,
  0x10334D_0030E1_0030FC_0030C8_0030EB_10334E_0030E4_0030FC_0030C8_003099,
  0x10334F_0030E4_0030FC_0030EB_103350_0030E6_0030A2_0030F3_103351_0030EA_0030C3_0030C8_0030EB,
  0x103352_0030EA_0030E9_103353_0030EB_0030D2_00309A_0030FC,
  0x103354_0030EB_0030FC_0030D5_003099_0030EB_103355_0030EC_0030E0,
  0x103356_0030EC_0030F3_0030C8_0030B1_003099_0030F3_103357_0030EF_0030C3_0030C8,
  0x103358_000030_0070B9_103359_000031_0070B9_10335A_000032_0070B9_10335B_000033_0070B9,
  0x10335C_000034_0070B9_10335D_000035_0070B9_10335E_000036_0070B9_10335F_000037_0070B9,
  0x103360_000038_0070B9_103361_000039_0070B9_103362_000031_000030_0070B9,
  0x103363_000031_000031_0070B9_103364_000031_000032_0070B9_103365_000031_000033_0070B9,
  0x103366_000031_000034_0070B9_103367_000031_000035_0070B9_103368_000031_000036_0070B9,
  0x103369_000031_000037_0070B9_10336A_000031_000038_0070B9_10336B_000031_000039_0070B9,
  0x10336C_000032_000030_0070B9_10336D_000032_000031_0070B9_10336E_000032_000032_0070B9,
  0x10336F_000032_000033_0070B9_103370_000032_000034_0070B9_103371_000068_000050_000061,
  0x103372_000064_000061_103373_000041_000055_103374_000062_000061_000072_103375_00006F_000056,
  0x103376_000070_000063_103377_000064_00006D_103378_000064_00006D_000032,
  0x103379_000064_00006D_000033_10337A_000049_000055_10337B_005E73_006210_10337C_00662D_00548C,
  0x10337D_005927_006B63_10337E_00660E_006CBB_10337F_00682A_005F0F_004F1A_00793E,
  0x103380_000070_000041_103381_00006E_000041_103382_0003BC_000041_103383_00006D_000041,
  0x103384_00006B_000041_103385_00004B_000042_103386_00004D_000042_103387_000047_000042,
  0x103388_000063_000061_00006C_103389_00006B_000063_000061_00006C_10338A_000070_000046,
  0x10338B_00006E_000046_10338C_0003BC_000046_10338D_0003BC_000067_10338E_00006D_000067,
  0x10338F_00006B_000067_103390_000048_00007A_103391_00006B_000048_00007A,
  0x103392_00004D_000048_00007A_103393_000047_000048_00007A_103394_000054_000048_00007A,
  0x103395_0003BC_00006C_103396_00006D_00006C_103397_000064_00006C_103398_00006B_00006C,
  0x103399_000066_00006D_10339A_00006E_00006D_10339B_0003BC_00006D_10339C_00006D_00006D,
  0x10339D_000063_00006D_10339E_00006B_00006D_10339F_00006D_00006D_000032,
  0x1033A0_000063_00006D_000032_1033A1_00006D_000032_1033A2_00006B_00006D_000032,
  0x1033A3_00006D_00006D_000033_1033A4_000063_00006D_000033_1033A5_00006D_000033,
  0x1033A6_00006B_00006D_000033_1033A7_00006D_002215_000073_1033A8_00006D_002215_000073_000032,
  0x1033A9_000050_000061_1033AA_00006B_000050_000061_1033AB_00004D_000050_000061,
  0x1033AC_000047_000050_000061_1033AD_000072_000061_000064,
  0x1033AE_000072_000061_000064_002215_000073_1033AF_000072_000061_000064_002215_000073_000032,
  0x1033B0_000070_000073_1033B1_00006E_000073_1033B2_0003BC_000073_1033B3_00006D_000073,
  0x1033B4_000070_000056_1033B5_00006E_000056_1033B6_0003BC_000056_1033B7_00006D_000056,
  0x1033B8_00006B_000056_1033B9_00004D_000056_1033BA_000070_000057_1033BB_00006E_000057,
  0x1033BC_0003BC_000057_1033BD_00006D_000057_1033BE_00006B_000057_1033BF_00004D_000057,
  0x1033C0_00006B_0003A9_1033C1_00004D_0003A9_1033C2_000061_00002E_00006D_00002E,
  0x1033C3_000042_000071_1033C4_000063_000063_1033C5_000063_000064,
  0x1033C6_000043_002215_00006B_000067_1033C7_000043_00006F_00002E_1033C8_000064_000042,
  0x1033C9_000047_000079_1033CA_000068_000061_1033CB_000048_000050_1033CC_000069_00006E,
  0x1033CD_00004B_00004B_1033CE_00004B_00004D_1033CF_00006B_000074_1033D0_00006C_00006D,
  0x1033D1_00006C_00006E_1033D2_00006C_00006F_000067_1033D3_00006C_000078_1033D4_00006D_000062,
  0x1033D5_00006D_000069_00006C_1033D6_00006D_00006F_00006C_1033D7_000050_000048,
  0x1033D8_000070_00002E_00006D_00002E_1033D9_000050_000050_00004D_1033DA_000050_000052,
  0x1033DB_000073_000072_1033DC_000053_000076_1033DD_000057_000062_1033DE_000056_002215_00006D,
  0x1033DF_000041_002215_00006D_1033E0_000031_0065E5_1033E1_000032_0065E5_1033E2_000033_0065E5,
  0x1033E3_000034_0065E5_1033E4_000035_0065E5_1033E5_000036_0065E5_1033E6_000037_0065E5,
  0x1033E7_000038_0065E5_1033E8_000039_0065E5_1033E9_000031_000030_0065E5,
  0x1033EA_000031_000031_0065E5_1033EB_000031_000032_0065E5_1033EC_000031_000033_0065E5,
  0x1033ED_000031_000034_0065E5_1033EE_000031_000035_0065E5_1033EF_000031_000036_0065E5,
  0x1033F0_000031_000037_0065E5_1033F1_000031_000038_0065E5_1033F2_000031_000039_0065E5,
  0x1033F3_000032_000030_0065E5_1033F4_000032_000031_0065E5_1033F5_000032_000032_0065E5,
  0x1033F6_000032_000033_0065E5_1033F7_000032_000034_0065E5_1033F8_000032_000035_0065E5,
  0x1033F9_000032_000036_0065E5_1033FA_000032_000037_0065E5_1033FB_000032_000038_0065E5,
  0x1033FC_000032_000039_0065E5_1033FD_000033_000030_0065E5_1033FE_000033_000031_0065E5,
  0x1033FF_000067_000061_00006C_10A69C_00044A_10A69D_00044C_10A770_00A76F_10A7F2_000043,
  0x10A7F3_000046_10A7F4_000051_10A7F8_000126_10A7F9_000153_10AB5C_00A727_10AB5D_00AB37,
  0x10AB5E_00026B_10AB5F_00AB52_10AB69_00028D_10F900_008C48_10F901_0066F4_10F902_008ECA,
  0x10F903_008CC8_10F904_006ED1_10F905_004E32_10F906_0053E5_10F907_009F9C_10F908_009F9C,
  0x10F909_005951_10F90A_0091D1_10F90B_005587_10F90C_005948_10F90D_0061F6_10F90E_007669,
  0x10F90F_007F85_10F910_00863F_10F911_0087BA_10F912_0088F8_10F913_00908F_10F914_006A02,
  0x10F915_006D1B_10F916_0070D9_10F917_0073DE_10F918_00843D_10F919_00916A_10F91A_0099F1,
  0x10F91B_004E82_10F91C_005375_10F91D_006B04_10F91E_00721B_10F91F_00862D_10F920_009E1E,
  0x10F921_005D50_10F922_006FEB_10F923_0085CD_10F924_008964_10F925_0062C9_10F926_0081D8,
  0x10F927_00881F_10F928_005ECA_10F929_006717_10F92A_006D6A_10F92B_0072FC_10F92C_0090CE,
  0x10F92D_004F86_10F92E_0051B7_10F92F_0052DE_10F930_0064C4_10F931_006AD3_10F932_007210,
  0x10F933_0076E7_10F934_008001_10F935_008606_10F936_00865C_10F937_008DEF_10F938_009732,
  0x10F939_009B6F_10F93A_009DFA_10F93B_00788C_10F93C_00797F_10F93D_007DA0_10F93E_0083C9,
  0x10F93F_009304_10F940_009E7F_10F941_008AD6_10F942_0058DF_10F943_005F04_10F944_007C60,
  0x10F945_00807E_10F946_007262_10F947_0078CA_10F948_008CC2_10F949_0096F7_10F94A_0058D8,
  0x10F94B_005C62_10F94C_006A13_10F94D_006DDA_10F94E_006F0F_10F94F_007D2F_10F950_007E37,
  0x10F951_00964B_10F952_0052D2_10F953_00808B_10F954_0051DC_10F955_0051CC_10F956_007A1C,
  0x10F957_007DBE_10F958_0083F1_10F959_009675_10F95A_008B80_10F95B_0062CF_10F95C_006A02,
  0x10F95D_008AFE_10F95E_004E39_10F95F_005BE7_10F960_006012_10F961_007387_10F962_007570,
  0x10F963_005317_10F964_0078FB_10F965_004FBF_10F966_005FA9_10F967_004E0D_10F968_006CCC,
  0x10F969_006578_10F96A_007D22_10F96B_0053C3_10F96C_00585E_10F96D_007701_10F96E_008449,
  0x10F96F_008AAA_10F970_006BBA_10F971_008FB0_10F972_006C88_10F973_0062FE_10F974_0082E5,
  0x10F975_0063A0_10F976_007565_10F977_004EAE_10F978_005169_10F979_0051C9_10F97A_006881,
  0x10F97B_007CE7_10F97C_00826F_10F97D_008AD2_10F97E_0091CF_10F97F_0052F5_10F980_005442,
  0x10F981_005973_10F982_005EEC_10F983_0065C5_10F984_006FFE_10F985_00792A_10F986_0095AD,
  0x10F987_009A6A_10F988_009E97_10F989_009ECE_10F98A_00529B_10F98B_0066C6_10F98C_006B77,
  0x10F98D_008F62_10F98E_005E74_10F98F_006190_10F990_006200_10F991_00649A_10F992_006F23,
  0x10F993_007149_10F994_007489_10F995_0079CA_10F996_007DF4_10F997_00806F_10F998_008F26,
  0x10F999_0084EE_10F99A_009023_10F99B_00934A_10F99C_005217_10F99D_0052A3_10F99E_0054BD,
  0x10F99F_0070C8_10F9A0_0088C2_10F9A1_008AAA_10F9A2_005EC9_10F9A3_005FF5_10F9A4_00637B,
  0x10F9A5_006BAE_10F9A6_007C3E_10F9A7_007375_10F9A8_004EE4_10F9A9_0056F9_10F9AA_005BE7,
  0x10F9AB_005DBA_10F9AC_00601C_10F9AD_0073B2_10F9AE_007469_10F9AF_007F9A_10F9B0_008046,
  0x10F9B1_009234_10F9B2_0096F6_10F9B3_009748_10F9B4_009818_10F9B5_004F8B_10F9B6_0079AE,
  0x10F9B7_0091B4_10F9B8_0096B8_10F9B9_0060E1_10F9BA_004E86_10F9BB_0050DA_10F9BC_005BEE,
  0x10F9BD_005C3F_10F9BE_006599_10F9BF_006A02_10F9C0_0071CE_10F9C1_007642_10F9C2_0084FC,
  0x10F9C3_00907C_10F9C4_009F8D_10F9C5_006688_10F9C6_00962E_10F9C7_005289_10F9C8_00677B,
  0x10F9C9_0067F3_10F9CA_006D41_10F9CB_006E9C_10F9CC_007409_10F9CD_007559_10F9CE_00786B,
  0x10F9CF_007D10_10F9D0_00985E_10F9D1_00516D_10F9D2_00622E_10F9D3_009678_10F9D4_00502B,
  0x10F9D5_005D19_10F9D6_006DEA_10F9D7_008F2A_10F9D8_005F8B_10F9D9_006144_10F9DA_006817,
  0x10F9DB_007387_10F9DC_009686_10F9DD_005229_10F9DE_00540F_10F9DF_005C65_10F9E0_006613,
  0x10F9E1_00674E_10F9E2_0068A8_10F9E3_006CE5_10F9E4_007406_10F9E5_0075E2_10F9E6_007F79,
  0x10F9E7_0088CF_10F9E8_0088E1_10F9E9_0091CC_10F9EA_0096E2_10F9EB_00533F_10F9EC_006EBA,
  0x10F9ED_00541D_10F9EE_0071D0_10F9EF_007498_10F9F0_0085FA_10F9F1_0096A3_10F9F2_009C57,
  0x10F9F3_009E9F_10F9F4_006797_10F9F5_006DCB_10F9F6_0081E8_10F9F7_007ACB_10F9F8_007B20,
  0x10F9F9_007C92_10F9FA_0072C0_10F9FB_007099_10F9FC_008B58_10F9FD_004EC0_10F9FE_008336,
  0x10F9FF_00523A_10FA00_005207_10FA01_005EA6_10FA02_0062D3_10FA03_007CD6_10FA04_005B85,
  0x10FA05_006D1E_10FA06_0066B4_10FA07_008F3B_10FA08_00884C_10FA09_00964D_10FA0A_00898B,
  0x10FA0B_005ED3_10FA0C_005140_10FA0D_0055C0_10FA10_00585A_10FA12_006674_10FA15_0051DE,
  0x10FA16_00732A_10FA17_0076CA_10FA18_00793C_10FA19_00795E_10FA1A_007965_10FA1B_00798F,
  0x10FA1C_009756_10FA1D_007CBE_10FA1E_007FBD_10FA20_008612_10FA22_008AF8_10FA25_009038,
  0x10FA26_0090FD_10FA2A_0098EF_10FA2B_0098FC_10FA2C_009928_10FA2D_009DB4_10FA2E_0090DE,
  0x10FA2F_0096B7_10FA30_004FAE_10FA31_0050E7_10FA32_00514D_10FA33_0052C9_10FA34_0052E4,
  0x10FA35_005351_10FA36_00559D_10FA37_005606_10FA38_005668_10FA39_005840_10FA3A_0058A8,
  0x10FA3B_005C64_10FA3C_005C6E_10FA3D_006094_10FA3E_006168_10FA3F_00618E_10FA40_0061F2,
  0x10FA41_00654F_10FA42_0065E2_10FA43_006691_10FA44_006885_10FA45_006D77_10FA46_006E1A,
  0x10FA47_006F22_10FA48_00716E_10FA49_00722B_10FA4A_007422_10FA4B_007891_10FA4C_00793E,
  0x10FA4D_007949_10FA4E_007948_10FA4F_007950_10FA50_007956_10FA51_00795D_10FA52_20FA53_00798D,
  0x10FA54_007A40_10FA55_007A81_10FA56_007BC0_10FA57_007DF4_10FA58_007E09_10FA59_007E41,
  0x10FA5A_007F72_10FA5B_008005_10FA5C_0081ED_10FA5D_008279_10FA5E_008279_10FA5F_008457,
  0x10FA60_008910_10FA61_008996_10FA62_008B01_10FA63_008B39_10FA64_008CD3_10FA65_008D08,
  0x10FA66_008FB6_10FA67_009038_10FA68_0096E3_10FA69_0097FF_10FA6A_00983B_10FA6B_006075,
  0x10FA6C_0242EE_10FA6D_008218_10FA70_004E26_10FA71_0051B5_10FA72_005168_10FA73_004F80,
  0x10FA74_005145_10FA75_005180_10FA76_0052C7_10FA77_0052FA_10FA78_00559D_10FA79_005555,
  0x10FA7A_005599_10FA7B_0055E2_10FA7C_00585A_10FA7D_0058B3_10FA7E_005944_10FA7F_005954,
  0x10FA80_005A62_10FA81_005B28_10FA82_005ED2_10FA83_005ED9_10FA84_005F69_10FA85_005FAD,
  0x10FA86_0060D8_10FA87_00614E_10FA88_006108_10FA89_00618E_10FA8A_006160_10FA8B_0061F2,
  0x10FA8C_006234_10FA8D_0063C4_10FA8E_00641C_10FA8F_006452_10FA90_006556_10FA91_006674,
  0x10FA92_006717_10FA93_00671B_10FA94_006756_10FA95_006B79_10FA96_006BBA_10FA97_006D41,
  0x10FA98_006EDB_10FA99_006ECB_10FA9A_006F22_10FA9B_00701E_10FA9C_00716E_10FA9D_0077A7,
  0x10FA9E_007235_10FA9F_0072AF_10FAA0_00732A_10FAA1_007471_10FAA2_007506_10FAA3_00753B,
  0x10FAA4_00761D_10FAA5_00761F_10FAA6_0076CA_10FAA7_0076DB_10FAA8_0076F4_10FAA9_00774A,
  0x10FAAA_007740_10FAAB_0078CC_10FAAC_007AB1_10FAAD_007BC0_10FAAE_007C7B_10FAAF_007D5B,
  0x10FAB0_007DF4_10FAB1_007F3E_10FAB2_008005_10FAB3_008352_10FAB4_0083EF_10FAB5_008779,
  0x10FAB6_008941_10FAB7_008986_10FAB8_008996_10FAB9_008ABF_10FABA_008AF8_10FABB_008ACB,
  0x10FABC_008B01_10FABD_008AFE_10FABE_008AED_10FABF_008B39_10FAC0_008B8A_10FAC1_008D08,
  0x10FAC2_008F38_10FAC3_009072_10FAC4_009199_10FAC5_009276_10FAC6_00967C_10FAC7_0096E3,
  0x10FAC8_009756_10FAC9_0097DB_10FACA_0097FF_10FACB_00980B_10FACC_00983B_10FACD_009B12,
  0x10FACE_009F9C_10FACF_02284A_10FAD0_022844_10FAD1_0233D5_10FAD2_003B9D_10FAD3_004018,
  0x10FAD4_004039_10FAD5_025249_10FAD6_025CD0_10FAD7_027ED3_10FAD8_009F43_10FAD9_009F8E,
  0x10FB00_000066_000066_10FB01_000066_000069_10FB02_000066_00006C_10FB03_000066_000066_000069,
  0x10FB04_000066_000066_00006C_10FB05_000073_000074_10FB06_000073_000074_10FB13_000574_000576,
  0x10FB14_000574_000565_10FB15_000574_00056B_10FB16_00057E_000576_10FB17_000574_00056D,
  0x10FB1D_0005D9_0005B4_10FB1F_0005F2_0005B7_10FB20_0005E2_10FB21_0005D0_10FB22_20FB23_0005D3,
  0x10FB24_20FB26_0005DB_10FB27_0005E8_10FB28_0005EA_10FB29_00002B_10FB2A_0005E9_0005C1,
  0x10FB2B_0005E9_0005C2_10FB2C_0005E9_0005BC_0005C1_10FB2D_0005E9_0005BC_0005C2,
  0x10FB2E_0005D0_0005B7_10FB2F_0005D0_0005B8_10FB30_0005D0_0005BC_10FB31_0005D1_0005BC,
  0x10FB32_0005D2_0005BC_10FB33_0005D3_0005BC_10FB34_0005D4_0005BC_10FB35_0005D5_0005BC,
  0x10FB36_0005D6_0005BC_10FB38_0005D8_0005BC_10FB39_0005D9_0005BC_10FB3A_0005DA_0005BC,
  0x10FB3B_0005DB_0005BC_10FB3C_0005DC_0005BC_10FB3E_0005DE_0005BC_10FB40_0005E0_0005BC,
  0x10FB41_0005E1_0005BC_10FB43_0005E3_0005BC_10FB44_0005E4_0005BC_10FB46_0005E6_0005BC,
  0x10FB47_0005E7_0005BC_10FB48_0005E8_0005BC_10FB49_0005E9_0005BC_10FB4A_0005EA_0005BC,
  0x10FB4B_0005D5_0005B9_10FB4C_0005D1_0005BF_10FB4D_0005DB_0005BF_10FB4E_0005E4_0005BF,
  0x10FB4F_0005D0_0005DC_10FB50_000671_10FB51_000671_10FB52_00067B_10FB53_00067B_10FB54_00067B,
  0x10FB55_00067B_10FB56_00067E_10FB57_00067E_10FB58_30FB5A_00067E_10FB59_30FB5B_00067E,
  0x10FB5C_000680_10FB5D_000680_10FB5E_00067A_10FB5F_00067A_10FB60_00067A_10FB61_00067A,
  0x10FB62_00067F_10FB63_00067F_10FB64_00067F_10FB65_00067F_10FB66_000679_10FB67_000679,
  0x10FB68_000679_10FB69_000679_10FB6A_0006A4_10FB6B_0006A4_10FB6C_30FB6E_0006A4,
  0x10FB6D_30FB6F_0006A4_10FB70_0006A6_10FB71_0006A6_10FB72_000684_10FB73_000684_10FB74_000684,
  0x10FB75_000684_10FB76_000683_10FB77_000683_10FB78_000683_10FB79_000683_10FB7A_000686,
  0x10FB7B_000686_10FB7C_000686_10FB7D_20FB7E_000686_10FB7F_000687_10FB80_000687_10FB81_000687,
  0x10FB82_00068D_10FB83_00068D_10FB84_30FB86_00068C_10FB85_30FB87_00068C_10FB88_000688,
  0x10FB89_000688_10FB8A_000698_10FB8B_000698_10FB8C_000691_10FB8D_000691_10FB8E_0006A9,
  0x10FB8F_0006A9_10FB90_0006A9_10FB91_0006A9_10FB92_0006AF_10FB93_0006AF_10FB94_0006AF,
  0x10FB95_0006AF_10FB96_0006B3_10FB97_0006B3_10FB98_0006B3_10FB99_0006B3_10FB9A_0006B1,
  0x10FB9B_0006B1_10FB9C_0006B1_10FB9D_0006B1_10FB9E_0006BA_10FB9F_20FBA0_0006BA_10FBA1_0006BB,
  0x10FBA2_0006BB_10FBA3_0006BB_10FBA4_0006D5_000654_10FBA5_0006D5_000654_10FBA6_0006C1,
  0x10FBA7_0006C1_10FBA8_0006C1_10FBA9_0006C1_10FBAA_0006BE_10FBAB_0006BE_10FBAC_0006BE,
  0x10FBAD_0006BE_10FBAE_0006D2_10FBAF_0006D2_10FBB0_0006D2_000654_10FBB1_0006D2_000654,
  0x10FBD3_0006AD_10FBD4_0006AD_10FBD5_0006AD_10FBD6_0006AD_10FBD7_0006C7_10FBD8_0006C7,
  0x10FBD9_30FBDB_0006C6_10FBDA_30FBDC_0006C6_10FBDD_0006C7_000674_10FBDE_0006CB_10FBDF_0006CB,
  0x10FBE0_0006C5_10FBE1_0006C5_10FBE2_0006C9_10FBE3_0006C9_10FBE4_0006D0_10FBE5_0006D0,
  0x10FBE6_0006D0_10FBE7_0006D0_10FBE8_000649_10FBE9_000649_10FBEA_00064A_000654_000627,
  0x10FBEB_00064A_000654_000627_10FBEC_00064A_000654_0006D5_10FBED_00064A_000654_0006D5,
  0x10FBEE_00064A_000654_000648_10FBEF_00064A_000654_000648_10FBF0_00064A_000654_0006C7,
  0x10FBF1_00064A_000654_0006C7_10FBF2_00064A_000654_0006C6_10FBF3_00064A_000654_0006C6,
  0x10FBF4_00064A_000654_0006C8_10FBF5_00064A_000654_0006C8_10FBF6_00064A_000654_0006D0,
  0x10FBF7_00064A_000654_0006D0_10FBF8_00064A_000654_0006D0_10FBF9_00064A_000654_000649,
  0x10FBFA_00064A_000654_000649_10FBFB_00064A_000654_000649_10FBFC_0006CC_10FBFD_0006CC,
  0x10FBFE_0006CC_10FBFF_0006CC_10FC00_00064A_000654_00062C_10FC01_00064A_000654_00062D,
  0x10FC02_00064A_000654_000645_10FC03_00064A_000654_000649_10FC04_00064A_000654_00064A,
  0x10FC05_000628_00062C_10FC06_000628_00062D_10FC07_000628_00062E_10FC08_000628_000645,
  0x10FC09_000628_000649_10FC0A_000628_00064A_10FC0B_00062A_00062C_10FC0C_00062A_00062D,
  0x10FC0D_00062A_00062E_10FC0E_00062A_000645_10FC0F_00062A_000649_10FC10_00062A_00064A,
  0x10FC11_00062B_00062C_10FC12_00062B_000645_10FC13_00062B_000649_10FC14_00062B_00064A,
  0x10FC15_00062C_00062D_10FC16_00062C_000645_10FC17_00062D_00062C_10FC18_00062D_000645,
  0x10FC19_00062E_00062C_10FC1A_00062E_00062D_10FC1B_00062E_000645_10FC1C_000633_00062C,
  0x10FC1D_000633_00062D_10FC1E_000633_00062E_10FC1F_000633_000645_10FC20_000635_00062D,
  0x10FC21_000635_000645_10FC22_000636_00062C_10FC23_000636_00062D_10FC24_000636_00062E,
  0x10FC25_000636_000645_10FC26_000637_00062D_10FC27_000637_000645_10FC28_000638_000645,
  0x10FC29_000639_00062C_10FC2A_000639_000645_10FC2B_00063A_00062C_10FC2C_00063A_000645,
  0x10FC2D_000641_00062C_10FC2E_000641_00062D_10FC2F_000641_00062E_10FC30_000641_000645,
  0x10FC31_000641_000649_10FC32_000641_00064A_10FC33_000642_00062D_10FC34_000642_000645,
  0x10FC35_000642_000649_10FC36_000642_00064A_10FC37_000643_000627_10FC38_000643_00062C,
  0x10FC39_000643_00062D_10FC3A_000643_00062E_10FC3B_000643_000644_10FC3C_000643_000645,
  0x10FC3D_000643_000649_10FC3E_000643_00064A_10FC3F_000644_00062C_10FC40_000644_00062D,
  0x10FC41_000644_00062E_10FC42_000644_000645_10FC43_000644_000649_10FC44_000644_00064A,
  0x10FC45_000645_00062C_10FC46_000645_00062D_10FC47_000645_00062E_10FC48_000645_000645,
  0x10FC49_000645_000649_10FC4A_000645_00064A_10FC4B_000646_00062C_10FC4C_000646_00062D,
  0x10FC4D_000646_00062E_10FC4E_000646_000645_10FC4F_000646_000649_10FC50_000646_00064A,
  0x10FC51_000647_00062C_10FC52_000647_000645_10FC53_000647_000649_10FC54_000647_00064A,
  0x10FC55_00064A_00062C_10FC56_00064A_00062D_10FC57_00064A_00062E_10FC58_00064A_000645,
  0x10FC59_00064A_000649_10FC5A_00064A_00064A_10FC5B_000630_000670_10FC5C_000631_000670,
  0x10FC5D_000649_000670_10FC5E_000020_00064C_000651_10FC5F_000020_00064D_000651,
  0x10FC60_000020_00064E_000651_10FC61_000020_00064F_000651_10FC62_000020_000650_000651,
  0x10FC63_000020_000651_000670_10FC64_00064A_000654_000631_10FC65_00064A_000654_000632,
  0x10FC66_00064A_000654_000645_10FC67_00064A_000654_000646_10FC68_00064A_000654_000649,
  0x10FC69_00064A_000654_00064A_10FC6A_000628_000631_10FC6B_000628_000632_10FC6C_000628_000645,
  0x10FC6D_000628_000646_10FC6E_000628_000649_10FC6F_000628_00064A_10FC70_00062A_000631,
  0x10FC71_00062A_000632_10FC72_00062A_000645_10FC73_00062A_000646_10FC74_00062A_000649,
  0x10FC75_00062A_00064A_10FC76_00062B_000631_10FC77_00062B_000632_10FC78_00062B_000645,
  0x10FC79_00062B_000646_10FC7A_00062B_000649_10FC7B_00062B_00064A_10FC7C_000641_000649,
  0x10FC7D_000641_00064A_10FC7E_000642_000649_10FC7F_000642_00064A_10FC80_000643_000627,
  0x10FC81_000643_000644_10FC82_000643_000645_10FC83_000643_000649_10FC84_000643_00064A,
  0x10FC85_000644_000645_10FC86_000644_000649_10FC87_000644_00064A_10FC88_000645_000627,
  0x10FC89_000645_000645_10FC8A_000646_000631_10FC8B_000646_000632_10FC8C_000646_000645,
  0x10FC8D_000646_000646_10FC8E_000646_000649_10FC8F_000646_00064A_10FC90_000649_000670,
  0x10FC91_00064A_000631_10FC92_00064A_000632_10FC93_00064A_000645_10FC94_00064A_000646,
  0x10FC95_00064A_000649_10FC96_00064A_00064A_10FC97_00064A_000654_00062C,
  0x10FC98_00064A_000654_00062D_10FC99_00064A_000654_00062E_10FC9A_00064A_000654_000645,
  0x10FC9B_00064A_000654_000647_10FC9C_000628_00062C_10FC9D_000628_00062D_10FC9E_000628_00062E,
  0x10FC9F_000628_000645_10FCA0_000628_000647_10FCA1_00062A_00062C_10FCA2_00062A_00062D,
  0x10FCA3_00062A_00062E_10FCA4_00062A_000645_10FCA5_00062A_000647_10FCA6_00062B_000645,
  0x10FCA7_00062C_00062D_10FCA8_00062C_000645_10FCA9_00062D_00062C_10FCAA_00062D_000645,
  0x10FCAB_00062E_00062C_10FCAC_00062E_000645_10FCAD_000633_00062C_10FCAE_000633_00062D,
  0x10FCAF_000633_00062E_10FCB0_000633_000645_10FCB1_000635_00062D_10FCB2_000635_00062E,
  0x10FCB3_000635_000645_10FCB4_000636_00062C_10FCB5_000636_00062D_10FCB6_000636_00062E,
  0x10FCB7_000636_000645_10FCB8_000637_00062D_10FCB9_000638_000645_10FCBA_000639_00062C,
  0x10FCBB_000639_000645_10FCBC_00063A_00062C_10FCBD_00063A_000645_10FCBE_000641_00062C,
  0x10FCBF_000641_00062D_10FCC0_000641_00062E_10FCC1_000641_000645_10FCC2_000642_00062D,
  0x10FCC3_000642_000645_10FCC4_000643_00062C_10FCC5_000643_00062D_10FCC6_000643_00062E,
  0x10FCC7_000643_000644_10FCC8_000643_000645_10FCC9_000644_00062C_10FCCA_000644_00062D,
  0x10FCCB_000644_00062E_10FCCC_000644_000645_10FCCD_000644_000647_10FCCE_000645_00062C,
  0x10FCCF_000645_00062D_10FCD0_000645_00062E_10FCD1_000645_000645_10FCD2_000646_00062C,
  0x10FCD3_000646_00062D_10FCD4_000646_00062E_10FCD5_000646_000645_10FCD6_000646_000647,
  0x10FCD7_000647_00062C_10FCD8_000647_000645_10FCD9_000647_000670_10FCDA_00064A_00062C,
  0x10FCDB_00064A_00062D_10FCDC_00064A_00062E_10FCDD_00064A_000645_10FCDE_00064A_000647,
  0x10FCDF_00064A_000654_000645_10FCE0_00064A_000654_000647_10FCE1_000628_000645,
  0x10FCE2_000628_000647_10FCE3_00062A_000645_10FCE4_00062A_000647_10FCE5_00062B_000645,
  0x10FCE6_00062B_000647_10FCE7_000633_000645_10FCE8_000633_000647_10FCE9_000634_000645,
  0x10FCEA_000634_000647_10FCEB_000643_000644_10FCEC_000643_000645_10FCED_000644_000645,
  0x10FCEE_000646_000645_10FCEF_000646_000647_10FCF0_00064A_000645_10FCF1_00064A_000647,
  0x10FCF2_000640_00064E_000651_10FCF3_000640_00064F_000651_10FCF4_000640_000650_000651,
  0x10FCF5_000637_000649_10FCF6_000637_00064A_10FCF7_000639_000649_10FCF8_000639_00064A,
  0x10FCF9_00063A_000649_10FCFA_00063A_00064A_10FCFB_000633_000649_10FCFC_000633_00064A,
  0x10FCFD_000634_000649_10FCFE_000634_00064A_10FCFF_00062D_000649_10FD00_00062D_00064A,
  0x10FD01_00062C_000649_10FD02_00062C_00064A_10FD03_00062E_000649_10FD04_00062E_00064A,
  0x10FD05_000635_000649_10FD06_000635_00064A_10FD07_000636_000649_10FD08_000636_00064A,
  0x10FD09_000634_00062C_10FD0A_000634_00062D_10FD0B_000634_00062E_10FD0C_000634_000645,
  0x10FD0D_000634_000631_10FD0E_000633_000631_10FD0F_000635_000631_10FD10_000636_000631,
  0x10FD11_000637_000649_10FD12_000637_00064A_10FD13_000639_000649_10FD14_000639_00064A,
  0x10FD15_00063A_000649_10FD16_00063A_00064A_10FD17_000633_000649_10FD18_000633_00064A,
  0x10FD19_000634_000649_10FD1A_000634_00064A_10FD1B_00062D_000649_10FD1C_00062D_00064A,
  0x10FD1D_00062C_000649_10FD1E_00062C_00064A_10FD1F_00062E_000649_10FD20_00062E_00064A,
  0x10FD21_000635_000649_10FD22_000635_00064A_10FD23_000636_000649_10FD24_000636_00064A,
  0x10FD25_000634_00062C_10FD26_000634_00062D_10FD27_000634_00062E_10FD28_000634_000645,
  0x10FD29_000634_000631_10FD2A_000633_000631_10FD2B_000635_000631_10FD2C_000636_000631,
  0x10FD2D_000634_00062C_10FD2E_000634_00062D_10FD2F_000634_00062E_10FD30_000634_000645,
  0x10FD31_000633_000647_10FD32_000634_000647_10FD33_000637_000645_10FD34_000633_00062C,
  0x10FD35_000633_00062D_10FD36_000633_00062E_10FD37_000634_00062C_10FD38_000634_00062D,
  0x10FD39_000634_00062E_10FD3A_000637_000645_10FD3B_000638_000645_10FD3C_000627_00064B,
  0x10FD3D_000627_00064B_10FD50_00062A_00062C_000645_10FD51_00062A_00062D_00062C,
  0x10FD52_00062A_00062D_00062C_10FD53_00062A_00062D_000645_10FD54_00062A_00062E_000645,
  0x10FD55_00062A_000645_00062C_10FD56_00062A_000645_00062D_10FD57_00062A_000645_00062E,
  0x10FD58_00062C_000645_00062D_10FD59_00062C_000645_00062D_10FD5A_00062D_000645_00064A,
  0x10FD5B_00062D_000645_000649_10FD5C_000633_00062D_00062C_10FD5D_000633_00062C_00062D,
  0x10FD5E_000633_00062C_000649_10FD5F_000633_000645_00062D_10FD60_000633_000645_00062D,
  0x10FD61_000633_000645_00062C_10FD62_000633_000645_000645_10FD63_000633_000645_000645,
  0x10FD64_000635_00062D_00062D_10FD65_000635_00062D_00062D_10FD66_000635_000645_000645,
  0x10FD67_000634_00062D_000645_10FD68_000634_00062D_000645_10FD69_000634_00062C_00064A,
  0x10FD6A_000634_000645_00062E_10FD6B_000634_000645_00062E_10FD6C_000634_000645_000645,
  0x10FD6D_000634_000645_000645_10FD6E_000636_00062D_000649_10FD6F_000636_00062E_000645,
  0x10FD70_000636_00062E_000645_10FD71_000637_000645_00062D_10FD72_000637_000645_00062D,
  0x10FD73_000637_000645_000645_10FD74_000637_000645_00064A_10FD75_000639_00062C_000645,
  0x10FD76_000639_000645_000645_10FD77_000639_000645_000645_10FD78_000639_000645_000649,
  0x10FD79_00063A_000645_000645_10FD7A_00063A_000645_00064A_10FD7B_00063A_000645_000649,
  0x10FD7C_000641_00062E_000645_10FD7D_000641_00062E_000645_10FD7E_000642_000645_00062D,
  0x10FD7F_000642_000645_000645_10FD80_000644_00062D_000645_10FD81_000644_00062D_00064A,
  0x10FD82_000644_00062D_000649_10FD83_000644_00062C_00062C_10FD84_000644_00062C_00062C,
  0x10FD85_000644_00062E_000645_10FD86_000644_00062E_000645_10FD87_000644_000645_00062D,
  0x10FD88_000644_000645_00062D_10FD89_000645_00062D_00062C_10FD8A_000645_00062D_000645,
  0x10FD8B_000645_00062D_00064A_10FD8C_000645_00062C_00062D_10FD8D_000645_00062C_000645,
  0x10FD8E_000645_00062E_00062C_10FD8F_000645_00062E_000645_10FD92_000645_00062C_00062E,
  0x10FD93_000647_000645_00062C_10FD94_000647_000645_000645_10FD95_000646_00062D_000645,
  0x10FD96_000646_00062D_000649_10FD97_000646_00062C_000645_10FD98_000646_00062C_000645,
  0x10FD99_000646_00062C_000649_10FD9A_000646_000645_00064A_10FD9B_000646_000645_000649,
  0x10FD9C_00064A_000645_000645_10FD9D_00064A_000645_000645_10FD9E_000628_00062E_00064A,
  0x10FD9F_00062A_00062C_00064A_10FDA0_00062A_00062C_000649_10FDA1_00062A_00062E_00064A,
  0x10FDA2_00062A_00062E_000649_10FDA3_00062A_000645_00064A_10FDA4_00062A_000645_000649,
  0x10FDA5_00062C_000645_00064A_10FDA6_00062C_00062D_000649_10FDA7_00062C_000645_000649,
  0x10FDA8_000633_00062E_000649_10FDA9_000635_00062D_00064A_10FDAA_000634_00062D_00064A,
  0x10FDAB_000636_00062D_00064A_10FDAC_000644_00062C_00064A_10FDAD_000644_000645_00064A,
  0x10FDAE_00064A_00062D_00064A_10FDAF_00064A_00062C_00064A_10FDB0_00064A_000645_00064A,
  0x10FDB1_000645_000645_00064A_10FDB2_000642_000645_00064A_10FDB3_000646_00062D_00064A,
  0x10FDB4_000642_000645_00062D_10FDB5_000644_00062D_000645_10FDB6_000639_000645_00064A,
  0x10FDB7_000643_000645_00064A_10FDB8_000646_00062C_00062D_10FDB9_000645_00062E_00064A,
  0x10FDBA_000644_00062C_000645_10FDBB_000643_000645_000645_10FDBC_000644_00062C_000645,
  0x10FDBD_000646_00062C_00062D_10FDBE_00062C_00062D_00064A_10FDBF_00062D_00062C_00064A,
  0x10FDC0_000645_00062C_00064A_10FDC1_000641_000645_00064A_10FDC2_000628_00062D_00064A,
  0x10FDC3_000643_000645_000645_10FDC4_000639_00062C_000645_10FDC5_000635_000645_000645,
  0x10FDC6_000633_00062E_00064A_10FDC7_000646_00062C_00064A_10FDF0_000635_000644_0006D2,
  0x10FDF1_000642_000644_0006D2_10FDF2_000627_000644_000644_000647,
  0x10FDF3_000627_000643_000628_000631_10FDF4_000645_00062D_000645_00062F,
  0x10FDF5_000635_000644_000639_000645_10FDF6_000631_000633_000648_000644,
  0x10FDF7_000639_000644_00064A_000647_10FDF8_000648_000633_000644_000645,
  0x10FDF9_000635_000644_000649,
  0x10FDFA_000635_000644_000649_000020_000627_000644_000644_000647_000020_000639_000644_00064A_000647_000020_000648_000633_000644_000645,
  0x10FDFB_00062C_000644_000020_00062C_000644_000627_000644_000647,
  0x10FDFC_000631_0006CC_000627_000644_10FE10_00002C_10FE11_20FE12_003001_10FE13_20FE14_00003A,
  0x10FE15_000021_10FE16_00003F_10FE17_20FE18_003016_10FE19_00002E_00002E_00002E,
  0x10FE30_00002E_00002E_10FE31_002014_10FE32_002013_10FE33_00005F_10FE34_00005F,
  0x10FE35_20FE36_000028_10FE37_00007B_10FE38_00007D_10FE39_20FE3A_003014_10FE3B_20FE3C_003010,
  0x10FE3D_20FE3E_00300A_10FE3F_20FE40_003008_10FE41_20FE44_00300C_10FE47_00005B_10FE48_00005D,
  0x10FE49_000020_000305_10FE4A_000020_000305_10FE4B_000020_000305_10FE4C_000020_000305,
  0x10FE4D_00005F_10FE4E_00005F_10FE4F_00005F_10FE50_30FE52_00002C_10FE51_003001_10FE54_00003B,
  0x10FE55_00003A_10FE56_00003F_10FE57_000021_10FE58_002014_10FE59_20FE5A_000028_10FE5B_00007B,
  0x10FE5C_00007D_10FE5D_20FE5E_003014_10FE5F_000023_10FE60_000026_10FE61_20FE62_00002A,
  0x10FE63_00002D_10FE64_00003C_10FE65_00003E_10FE66_00003D_10FE68_00005C_10FE69_20FE6A_000024,
  0x10FE6B_000040_10FE70_000020_00064B_10FE71_000640_00064B_10FE72_000020_00064C,
  0x10FE74_000020_00064D_10FE76_000020_00064E_10FE77_000640_00064E_10FE78_000020_00064F,
  0x10FE79_000640_00064F_10FE7A_000020_000650_10FE7B_000640_000650_10FE7C_000020_000651,
  0x10FE7D_000640_000651_10FE7E_000020_000652_10FE7F_000640_000652_10FE80_000621,
  0x10FE81_000627_000653_10FE82_000627_000653_10FE83_000627_000654_10FE84_000627_000654,
  0x10FE85_000648_000654_10FE86_000648_000654_10FE87_000627_000655_10FE88_000627_000655,
  0x10FE89_00064A_000654_10FE8A_00064A_000654_10FE8B_00064A_000654_10FE8C_00064A_000654,
  0x10FE8D_000627_10FE8E_20FE8F_000627_10FE90_000628_10FE91_000628_10FE92_20FE93_000628,
  0x10FE94_20FE95_000629_10FE96_00062A_10FE97_00062A_10FE98_20FE99_00062A_10FE9A_00062B,
  0x10FE9B_00062B_10FE9C_20FE9D_00062B_10FE9E_00062C_10FE9F_00062C_10FEA0_20FEA1_00062C,
  0x10FEA2_00062D_10FEA3_00062D_10FEA4_20FEA5_00062D_10FEA6_00062E_10FEA7_00062E,
  0x10FEA8_20FEA9_00062E_10FEAA_20FEAB_00062F_10FEAC_20FEAD_000630_10FEAE_20FEAF_000631,
  0x10FEB0_20FEB1_000632_10FEB2_000633_10FEB3_000633_10FEB4_20FEB5_000633_10FEB6_000634,
  0x10FEB7_000634_10FEB8_20FEB9_000634_10FEBA_000635_10FEBB_000635_10FEBC_20FEBD_000635,
  0x10FEBE_000636_10FEBF_000636_10FEC0_20FEC1_000636_10FEC2_000637_10FEC3_000637,
  0x10FEC4_20FEC5_000637_10FEC6_000638_10FEC7_000638_10FEC8_20FEC9_000638_10FECA_000639,
  0x10FECB_000639_10FECC_20FECD_000639_10FECE_00063A_10FECF_00063A_10FED0_00063A_10FED1_000641,
  0x10FED2_000641_10FED3_000641_10FED4_20FED5_000641_10FED6_000642_10FED7_000642,
  0x10FED8_20FED9_000642_10FEDA_000643_10FEDB_000643_10FEDC_20FEDD_000643_10FEDE_000644,
  0x10FEDF_000644_10FEE0_20FEE1_000644_10FEE2_000645_10FEE3_000645_10FEE4_20FEE5_000645,
  0x10FEE6_000646_10FEE7_000646_10FEE8_20FEE9_000646_10FEEA_000647_10FEEB_000647,
  0x10FEEC_20FEED_000647_10FEEE_20FEEF_000648_10FEF0_20FEF1_000649_10FEF2_00064A_10FEF3_00064A,
  0x10FEF4_00064A_10FEF5_000644_000627_000653_10FEF6_000644_000627_000653,
  0x10FEF7_000644_000627_000654_10FEF8_000644_000627_000654_10FEF9_000644_000627_000655,
  0x10FEFA_000644_000627_000655_10FEFB_000644_000627_10FEFC_000644_000627_10FF01_20FF5E_000021,
  0x10FF5F_20FF60_002985_10FF61_003002_10FF62_20FF63_00300C_10FF64_003001_10FF65_0030FB,
  0x10FF66_0030F2_10FF67_0030A1_10FF68_0030A3_10FF69_0030A5_10FF6A_0030A7_10FF6B_0030A9,
  0x10FF6C_0030E3_10FF6D_0030E5_10FF6E_0030E7_10FF6F_0030C3_10FF70_0030FC_10FF71_0030A2,
  0x10FF72_0030A4_10FF73_0030A6_10FF74_0030A8_10FF75_20FF76_0030AA_10FF77_0030AD_10FF78_0030AF,
  0x10FF79_0030B1_10FF7A_0030B3_10FF7B_0030B5_10FF7C_0030B7_10FF7D_0030B9_10FF7E_0030BB,
  0x10FF7F_0030BD_10FF80_0030BF_10FF81_0030C1_10FF82_0030C4_10FF83_0030C6_10FF84_0030C8,
  0x10FF85_20FF8A_0030CA_10FF8B_0030D2_10FF8C_0030D5_10FF8D_0030D8_10FF8E_0030DB,
  0x10FF8F_20FF93_0030DE_10FF94_0030E4_10FF95_0030E6_10FF96_20FF9B_0030E8_10FF9C_0030EF,
  0x10FF9D_0030F3_10FF9E_20FF9F_003099_10FFA0_001160_10FFA1_20FFA2_001100_10FFA3_30FFA5_0011AA,
  0x10FFA4_001102_10FFA6_0011AD_10FFA7_20FFA9_001103_10FFAA_20FFAF_0011B0_10FFB0_00111A,
  0x10FFB1_20FFB3_001106_10FFB4_001121_10FFB5_20FFBE_001109_10FFC2_20FFC7_001161,
  0x10FFCA_20FFCF_001167_10FFD2_20FFD7_00116D_10FFDA_20FFDC_001173_10FFE0_20FFE1_0000A2,
  0x10FFE2_0000AC_10FFE3_000020_000304_10FFE4_0000A6_10FFE5_0000A5_10FFE6_0020A9_10FFE8_002502,
  0x10FFE9_20FFEC_002190_10FFED_0025A0_10FFEE_0025CB_110781_210782_0002D0_110783_0000E6,
  0x110784_000299_110785_000253_110787_310789_0002A3_110788_00AB66_11078A_0002A4,
  0x11078B_21078C_000256_11078D_001D91_11078E_000258_11078F_00025E_110790_0002A9_110791_000264,
  0x110792_000262_110793_000260_110794_00029B_110795_000127_110796_00029C_110797_000267,
  0x110798_000284_110799_21079A_0002AA_11079B_00026C_11079C_01DF04_11079D_00A78E_11079E_00026E,
  0x11079F_01DF05_1107A0_00028E_1107A1_01DF06_1107A2_0000F8_1107A3_2107A4_000276_1107A5_000071,
  0x1107A6_00027A_1107A7_01DF08_1107A8_2107A9_00027D_1107AA_000280_1107AB_0002A8_1107AC_0002A6,
  0x1107AD_00AB67_1107AE_0002A7_1107AF_000288_1107B0_002C71_1107B2_00028F_1107B3_2107B4_0002A1,
  0x1107B5_000298_1107B6_2107B8_0001C0_1107B9_01DF0A_1107BA_01DF1E_11109A_011099_0110BA,
  0x11109C_01109B_0110BA_1110AB_0110A5_0110BA_11112E_011131_011127_11112F_011132_011127,
  0x11134B_011347_01133E_11134C_011347_011357_1114BB_0114B9_0114BA_1114BC_0114B9_0114B0,
  0x1114BE_0114B9_0114BD_1115BA_0115B8_0115AF_1115BB_0115B9_0115AF_111938_011935_011930,
  0x11D15E_01D157_01D165_11D15F_01D158_01D165_11D160_01D158_01D165_01D16E,
  0x11D161_01D158_01D165_01D16F_11D162_01D158_01D165_01D170_11D163_01D158_01D165_01D171,
  0x11D164_01D158_01D165_01D172_11D1BB_01D1B9_01D165_11D1BC_01D1BA_01D165,
  0x11D1BD_01D1B9_01D165_01D16E_11D1BE_01D1BA_01D165_01D16E_11D1BF_01D1B9_01D165_01D16F,
  0x11D1C0_01D1BA_01D165_01D16F_11D400_21D419_000041_11D41A_21D433_000061_11D434_21D44D_000041,
  0x11D44E_31D466_000061_11D44F_31D453_000062_11D457_31D467_00006A_11D468_21D481_000041,
  0x11D482_21D49B_000061_11D49C_31D49E_000041_11D49F_000044_11D4A2_000047_11D4A5_21D4A6_00004A,
  0x11D4A9_21D4AC_00004E_11D4AE_21D4B5_000053_11D4B6_21D4B9_000061_11D4BB_31D4CF_000066,
  0x11D4BE_31D4C2_000069_11D4C6_31D4CE_000071_11D4D0_21D4E9_000041_11D4EA_21D503_000061,
  0x11D504_21D505_000041_11D507_21D50A_000044_11D50D_21D514_00004A_11D516_21D51C_000053,
  0x11D51E_21D537_000061_11D538_21D539_000041_11D53B_21D53E_000044_11D540_21D544_000049,
  0x11D546_00004F_11D54A_21D550_000053_11D552_21D56B_000061_11D56C_21D585_000041,
  0x11D586_21D59F_000061_11D5A0_21D5B9_000041_11D5BA_21D5D3_000061_11D5D4_21D5ED_000041,
  0x11D5EE_21D607_000061_11D608_21D621_000041_11D622_21D63B_000061_11D63C_21D655_000041,
  0x11D656_21D66F_000061_11D670_21D689_000041_11D68A_21D6A3_000061_11D6A4_000131_11D6A5_000237,
  0x11D6A8_21D6B8_000391_11D6B9_000398_11D6BA_21D6C0_0003A3_11D6C1_002207_11D6C2_21D6DA_0003B1,
  0x11D6DB_002202_11D6DC_0003B5_11D6DD_0003B8_11D6DE_0003BA_11D6DF_0003C6_11D6E0_0003C1,
  0x11D6E1_0003C0_11D6E2_21D6F2_000391_11D6F3_000398_11D6F4_21D6FA_0003A3_11D6FB_002207,
  0x11D6FC_21D714_0003B1_11D715_002202_11D716_0003B5_11D717_0003B8_11D718_0003BA_11D719_0003C6,
  0x11D71A_0003C1_11D71B_0003C0_11D71C_21D72C_000391_11D72D_000398_11D72E_21D734_0003A3,
  0x11D735_002207_11D736_21D74E_0003B1_11D74F_002202_11D750_0003B5_11D751_0003B8_11D752_0003BA,
  0x11D753_0003C6_11D754_0003C1_11D755_0003C0_11D756_21D766_000391_11D767_000398,
  0x11D768_21D76E_0003A3_11D76F_002207_11D770_21D788_0003B1_11D789_002202_11D78A_0003B5,
  0x11D78B_0003B8_11D78C_0003BA_11D78D_0003C6_11D78E_0003C1_11D78F_0003C0_11D790_21D7A0_000391,
  0x11D7A1_000398_11D7A2_21D7A8_0003A3_11D7A9_002207_11D7AA_21D7C2_0003B1_11D7C3_002202,
  0x11D7C4_0003B5_11D7C5_0003B8_11D7C6_0003BA_11D7C7_0003C6_11D7C8_0003C1_11D7C9_0003C0,
  0x11D7CA_21D7CB_0003DC_11D7CE_21D7D7_000030_11D7D8_21D7E1_000030_11D7E2_21D7EB_000030,
  0x11D7EC_21D7F5_000030_11D7F6_21D7FF_000030_11EE00_21EE01_000627_11EE02_00062C_11EE03_00062F,
  0x11EE05_000648_11EE06_000632_11EE07_00062D_11EE08_000637_11EE09_00064A_11EE0A_21EE0D_000643,
  0x11EE0E_000633_11EE0F_000639_11EE10_000641_11EE11_000635_11EE12_000642_11EE13_000631,
  0x11EE14_000634_11EE15_21EE16_00062A_11EE17_00062E_11EE18_000630_11EE19_000636_11EE1A_000638,
  0x11EE1B_00063A_11EE1C_00066E_11EE1D_0006BA_11EE1E_0006A1_11EE1F_00066F_11EE21_000628,
  0x11EE22_00062C_11EE24_000647_11EE27_00062D_11EE29_00064A_11EE2A_21EE2D_000643_11EE2E_000633,
  0x11EE2F_000639_11EE30_000641_11EE31_000635_11EE32_000642_11EE34_000634_11EE35_21EE36_00062A,
  0x11EE37_00062E_11EE39_000636_11EE3B_00063A_11EE42_00062C_11EE47_00062D_11EE49_00064A,
  0x11EE4B_31EE4D_000644_11EE4E_000633_11EE4F_000639_11EE51_000635_11EE52_000642_11EE54_000634,
  0x11EE57_00062E_11EE59_000636_11EE5B_00063A_11EE5D_0006BA_11EE5F_00066F_11EE61_000628,
  0x11EE62_00062C_11EE64_000647_11EE67_00062D_11EE68_000637_11EE69_00064A_11EE6A_31EE6C_000643,
  0x11EE6D_000646_11EE6E_000633_11EE6F_000639_11EE70_000641_11EE71_000635_11EE72_000642,
  0x11EE74_000634_11EE75_21EE76_00062A_11EE77_00062E_11EE79_000636_11EE7A_000638_11EE7B_00063A,
  0x11EE7C_00066E_11EE7E_0006A1_11EE80_21EE81_000627_11EE82_00062C_11EE83_00062F,
  0x11EE84_21EE85_000647_11EE86_000632_11EE87_00062D_11EE88_000637_11EE89_00064A,
  0x11EE8B_21EE8D_000644_11EE8E_000633_11EE8F_000639_11EE90_000641_11EE91_000635_11EE92_000642,
  0x11EE93_000631_11EE94_000634_11EE95_21EE96_00062A_11EE97_00062E_11EE98_000630_11EE99_000636,
  0x11EE9A_000638_11EE9B_00063A_11EEA1_000628_11EEA2_00062C_11EEA3_00062F_11EEA5_000648,
  0x11EEA6_000632_11EEA7_00062D_11EEA8_000637_11EEA9_00064A_11EEAB_21EEAD_000644_11EEAE_000633,
  0x11EEAF_000639_11EEB0_000641_11EEB1_000635_11EEB2_000642_11EEB3_000631_11EEB4_000634,
  0x11EEB5_21EEB6_00062A_11EEB7_00062E_11EEB8_000630_11EEB9_000636_11EEBA_000638_11EEBB_00063A,
  0x11F100_000030_00002E_11F101_000030_00002C_11F102_000031_00002C_11F103_000032_00002C,
  0x11F104_000033_00002C_11F105_000034_00002C_11F106_000035_00002C_11F107_000036_00002C,
  0x11F108_000037_00002C_11F109_000038_00002C_11F10A_000039_00002C_11F110_000028_000041_000029,
  0x11F111_000028_000042_000029_11F112_000028_000043_000029_11F113_000028_000044_000029,
  0x11F114_000028_000045_000029_11F115_000028_000046_000029_11F116_000028_000047_000029,
  0x11F117_000028_000048_000029_11F118_000028_000049_000029_11F119_000028_00004A_000029,
  0x11F11A_000028_00004B_000029_11F11B_000028_00004C_000029_11F11C_000028_00004D_000029,
  0x11F11D_000028_00004E_000029_11F11E_000028_00004F_000029_11F11F_000028_000050_000029,
  0x11F120_000028_000051_000029_11F121_000028_000052_000029_11F122_000028_000053_000029,
  0x11F123_000028_000054_000029_11F124_000028_000055_000029_11F125_000028_000056_000029,
  0x11F126_000028_000057_000029_11F127_000028_000058_000029_11F128_000028_000059_000029,
  0x11F129_000028_00005A_000029_11F12A_003014_000053_003015_11F12B_000043_11F12C_000052,
  0x11F12D_000043_000044_11F12E_000057_00005A_11F130_21F149_000041_11F14A_000048_000056,
  0x11F14B_00004D_000056_11F14C_000053_000044_11F14D_000053_000053_11F14E_000050_000050_000056,
  0x11F14F_000057_000043_11F16A_00004D_000043_11F16B_00004D_000044_11F16C_00004D_000052,
  0x11F190_000044_00004A_11F200_00307B_00304B_11F201_0030B3_0030B3_11F202_0030B5_11F210_00624B,
  0x11F211_005B57_11F212_0053CC_11F213_0030C6_003099_11F214_004E8C_11F215_00591A_11F216_0089E3,
  0x11F217_005929_11F218_004EA4_11F219_006620_11F21A_007121_11F21B_006599_11F21C_00524D,
  0x11F21D_005F8C_11F21E_00518D_11F21F_0065B0_11F220_00521D_11F221_007D42_11F222_00751F,
  0x11F223_008CA9_11F224_0058F0_11F225_005439_11F226_006F14_11F227_006295_11F228_006355,
  0x11F229_004E00_11F22A_004E09_11F22B_00904A_11F22C_005DE6_11F22D_004E2D_11F22E_0053F3,
  0x11F22F_006307_11F230_008D70_11F231_006253_11F232_007981_11F233_007A7A_11F234_005408,
  0x11F235_006E80_11F236_006709_11F237_006708_11F238_007533_11F239_005272_11F23A_0055B6,
  0x11F23B_00914D_11F240_003014_00672C_003015_11F241_003014_004E09_003015,
  0x11F242_003014_004E8C_003015_11F243_003014_005B89_003015_11F244_003014_0070B9_003015,
  0x11F245_003014_006253_003015_11F246_003014_0076D7_003015_11F247_003014_0052DD_003015,
  0x11F248_003014_006557_003015_11F250_005F97_11F251_0053EF_11FBF0_21FBF9_000030_12F800_004E3D,
  0x12F801_004E38_12F802_004E41_12F803_020122_12F804_004F60_12F805_004FAE_12F806_004FBB,
  0x12F807_005002_12F808_00507A_12F809_005099_12F80A_0050E7_12F80B_0050CF_12F80C_00349E,
  0x12F80D_02063A_12F80E_00514D_12F80F_005154_12F810_005164_12F811_005177_12F812_02051C,
  0x12F813_0034B9_12F814_005167_12F815_00518D_12F816_02054B_12F817_005197_12F818_0051A4,
  0x12F819_004ECC_12F81A_0051AC_12F81B_0051B5_12F81C_0291DF_12F81D_0051F5_12F81E_005203,
  0x12F81F_0034DF_12F820_00523B_12F821_005246_12F822_005272_12F823_005277_12F824_003515,
  0x12F825_0052C7_12F826_0052C9_12F827_0052E4_12F828_0052FA_12F829_22F82A_005305_12F82B_005317,
  0x12F82C_005349_12F82D_005351_12F82E_00535A_12F82F_005373_12F830_32F832_00537D_12F831_00537F,
  0x12F833_00537F_12F834_020A2C_12F835_007070_12F836_0053CA_12F837_0053DF_12F838_020B63,
  0x12F839_0053EB_12F83A_0053F1_12F83B_005406_12F83C_00549E_12F83D_005438_12F83E_005448,
  0x12F83F_005468_12F840_0054A2_12F841_0054F6_12F842_005510_12F843_005553_12F844_005563,
  0x12F845_005584_12F846_005584_12F847_005599_12F848_0055AB_12F849_0055B3_12F84A_0055C2,
  0x12F84B_005716_12F84C_005606_12F84D_005717_12F84E_005651_12F84F_005674_12F850_005207,
  0x12F851_0058EE_12F852_0057CE_12F853_0057F4_12F854_00580D_12F855_00578B_12F856_005832,
  0x12F857_005831_12F858_0058AC_12F859_0214E4_12F85A_0058F2_12F85B_0058F7_12F85C_005906,
  0x12F85D_00591A_12F85E_005922_12F85F_005962_12F860_0216A8_12F861_0216EA_12F862_0059EC,
  0x12F863_005A1B_12F864_005A27_12F865_0059D8_12F866_005A66_12F867_0036EE_12F868_0036FC,
  0x12F869_005B08_12F86A_005B3E_12F86B_005B3E_12F86C_0219C8_12F86D_005BC3_12F86E_005BD8,
  0x12F86F_005BE7_12F870_005BF3_12F871_021B18_12F872_005BFF_12F873_005C06_12F874_005F53,
  0x12F875_005C22_12F876_003781_12F877_005C60_12F878_005C6E_12F879_005CC0_12F87A_005C8D,
  0x12F87B_32F87D_021DE4_12F87C_005D43_12F87E_005D6E_12F87F_005D6B_12F880_005D7C,
  0x12F881_22F882_005DE1_12F883_00382F_12F884_005DFD_12F885_005E28_12F886_005E3D_12F887_005E69,
  0x12F888_003862_12F889_022183_12F88A_00387C_12F88B_005EB0_12F88C_005EB3_12F88D_005EB6,
  0x12F88E_005ECA_12F88F_02A392_12F890_005EFE_12F891_022331_12F892_022331_12F893_008201,
  0x12F894_005F22_12F895_005F22_12F896_0038C7_12F897_0232B8_12F898_0261DA_12F899_005F62,
  0x12F89A_005F6B_12F89B_0038E3_12F89C_005F9A_12F89D_005FCD_12F89E_005FD7_12F89F_005FF9,
  0x12F8A0_006081_12F8A1_00393A_12F8A2_00391C_12F8A3_006094_12F8A4_0226D4_12F8A5_0060C7,
  0x12F8A6_006148_12F8A7_00614C_12F8A8_00614E_12F8A9_00614C_12F8AA_00617A_12F8AB_00618E,
  0x12F8AC_0061B2_12F8AD_0061A4_12F8AE_0061AF_12F8AF_0061DE_12F8B0_0061F2_12F8B1_0061F6,
  0x12F8B2_006210_12F8B3_00621B_12F8B4_00625D_12F8B5_0062B1_12F8B6_0062D4_12F8B7_006350,
  0x12F8B8_022B0C_12F8B9_00633D_12F8BA_0062FC_12F8BB_006368_12F8BC_006383_12F8BD_0063E4,
  0x12F8BE_022BF1_12F8BF_006422_12F8C0_0063C5_12F8C1_0063A9_12F8C2_003A2E_12F8C3_006469,
  0x12F8C4_00647E_12F8C5_00649D_12F8C6_006477_12F8C7_003A6C_12F8C8_00654F_12F8C9_00656C,
  0x12F8CA_02300A_12F8CB_0065E3_12F8CC_0066F8_12F8CD_006649_12F8CE_003B19_12F8CF_006691,
  0x12F8D0_003B08_12F8D1_003AE4_12F8D2_005192_12F8D3_005195_12F8D4_006700_12F8D5_00669C,
  0x12F8D6_0080AD_12F8D7_0043D9_12F8D8_006717_12F8D9_00671B_12F8DA_006721_12F8DB_00675E,
  0x12F8DC_006753_12F8DD_0233C3_12F8DE_003B49_12F8DF_0067FA_12F8E0_006785_12F8E1_006852,
  0x12F8E2_006885_12F8E3_02346D_12F8E4_00688E_12F8E5_00681F_12F8E6_006914_12F8E7_003B9D,
  0x12F8E8_006942_12F8E9_0069A3_12F8EA_0069EA_12F8EB_006AA8_12F8EC_0236A3_12F8ED_006ADB,
  0x12F8EE_003C18_12F8EF_006B21_12F8F0_0238A7_12F8F1_006B54_12F8F2_003C4E_12F8F3_006B72,
  0x12F8F4_006B9F_12F8F5_22F8F6_006BBA_12F8F7_023A8D_12F8F8_021D0B_12F8F9_023AFA_12F8FA_006C4E,
  0x12F8FB_023CBC_12F8FC_006CBF_12F8FD_006CCD_12F8FE_006C67_12F8FF_006D16_12F900_006D3E,
  0x12F901_006D77_12F902_006D41_12F903_006D69_12F904_006D78_12F905_006D85_12F906_023D1E,
  0x12F907_006D34_12F908_006E2F_12F909_006E6E_12F90A_003D33_12F90B_006ECB_12F90C_006EC7,
  0x12F90D_023ED1_12F90E_006DF9_12F90F_006F6E_12F910_023F5E_12F911_023F8E_12F912_006FC6,
  0x12F913_007039_12F914_00701E_12F915_00701B_12F916_003D96_12F917_00704A_12F918_00707D,
  0x12F919_007077_12F91A_0070AD_12F91B_020525_12F91C_007145_12F91D_024263_12F91E_00719C,
  0x12F91F_0243AB_12F920_007228_12F921_007235_12F922_007250_12F923_024608_12F924_007280,
  0x12F925_007295_12F926_024735_12F927_024814_12F928_00737A_12F929_00738B_12F92A_003EAC,
  0x12F92B_0073A5_12F92C_003EB8_12F92D_003EB8_12F92E_007447_12F92F_00745C_12F930_007471,
  0x12F931_007485_12F932_0074CA_12F933_003F1B_12F934_007524_12F935_024C36_12F936_00753E,
  0x12F937_024C92_12F938_007570_12F939_02219F_12F93A_007610_12F93B_024FA1_12F93C_024FB8,
  0x12F93D_025044_12F93E_003FFC_12F93F_004008_12F940_0076F4_12F941_0250F3_12F942_0250F2,
  0x12F943_025119_12F944_025133_12F945_22F946_00771E_12F947_00771F_12F948_00774A_12F949_004039,
  0x12F94A_00778B_12F94B_004046_12F94C_004096_12F94D_02541D_12F94E_00784E_12F94F_00788C,
  0x12F950_0078CC_12F951_0040E3_12F952_025626_12F953_007956_12F954_02569A_12F955_0256C5,
  0x12F956_00798F_12F957_0079EB_12F958_00412F_12F959_007A40_12F95A_007A4A_12F95B_007A4F,
  0x12F95C_02597C_12F95D_025AA7_12F95E_025AA7_12F95F_007AEE_12F960_004202_12F961_025BAB,
  0x12F962_007BC6_12F963_007BC9_12F964_004227_12F965_025C80_12F966_007CD2_12F967_0042A0,
  0x12F968_007CE8_12F969_007CE3_12F96A_007D00_12F96B_025F86_12F96C_007D63_12F96D_004301,
  0x12F96E_007DC7_12F96F_007E02_12F970_007E45_12F971_004334_12F972_026228_12F973_026247,
  0x12F974_004359_12F975_0262D9_12F976_007F7A_12F977_02633E_12F978_007F95_12F979_007FFA,
  0x12F97A_008005_12F97B_0264DA_12F97C_026523_12F97D_008060_12F97E_0265A8_12F97F_008070,
  0x12F980_02335F_12F981_0043D5_12F982_0080B2_12F983_008103_12F984_00440B_12F985_00813E,
  0x12F986_005AB5_12F987_0267A7_12F988_0267B5_12F989_023393_12F98A_02339C_12F98B_008201,
  0x12F98C_008204_12F98D_008F9E_12F98E_00446B_12F98F_008291_12F990_00828B_12F991_00829D,
  0x12F992_0052B3_12F993_0082B1_12F994_0082B3_12F995_0082BD_12F996_0082E6_12F997_026B3C,
  0x12F998_0082E5_12F999_00831D_12F99A_008363_12F99B_0083AD_12F99C_008323_12F99D_0083BD,
  0x12F99E_0083E7_12F99F_008457_12F9A0_008353_12F9A1_0083CA_12F9A2_0083CC_12F9A3_0083DC,
  0x12F9A4_026C36_12F9A5_026D6B_12F9A6_026CD5_12F9A7_00452B_12F9A8_0084F1_12F9A9_0084F3,
  0x12F9AA_008516_12F9AB_0273CA_12F9AC_008564_12F9AD_026F2C_12F9AE_00455D_12F9AF_004561,
  0x12F9B0_026FB1_12F9B1_0270D2_12F9B2_00456B_12F9B3_008650_12F9B4_00865C_12F9B5_008667,
  0x12F9B6_008669_12F9B7_0086A9_12F9B8_008688_12F9B9_00870E_12F9BA_0086E2_12F9BB_008779,
  0x12F9BC_008728_12F9BD_00876B_12F9BE_008786_12F9BF_0045D7_12F9C0_0087E1_12F9C1_008801,
  0x12F9C2_0045F9_12F9C3_008860_12F9C4_008863_12F9C5_027667_12F9C6_0088D7_12F9C7_0088DE,
  0x12F9C8_004635_12F9C9_0088FA_12F9CA_0034BB_12F9CB_0278AE_12F9CC_027966_12F9CD_0046BE,
  0x12F9CE_0046C7_12F9CF_008AA0_12F9D0_008AED_12F9D1_008B8A_12F9D2_008C55_12F9D3_027CA8,
  0x12F9D4_008CAB_12F9D5_008CC1_12F9D6_008D1B_12F9D7_008D77_12F9D8_027F2F_12F9D9_020804,
  0x12F9DA_008DCB_12F9DB_008DBC_12F9DC_008DF0_12F9DD_0208DE_12F9DE_008ED4_12F9DF_008F38,
  0x12F9E0_0285D2_12F9E1_0285ED_12F9E2_009094_12F9E3_0090F1_12F9E4_009111_12F9E5_02872E,
  0x12F9E6_00911B_12F9E7_009238_12F9E8_22F9E9_0092D7_12F9EA_00927C_12F9EB_0093F9_12F9EC_009415,
  0x12F9ED_028BFA_12F9EE_00958B_12F9EF_004995_12F9F0_0095B7_12F9F1_028D77_12F9F2_0049E6,
  0x12F9F3_0096C3_12F9F4_005DB2_12F9F5_009723_12F9F6_029145_12F9F7_02921A_12F9F8_004A6E,
  0x12F9F9_004A76_12F9FA_0097E0_12F9FB_02940A_12F9FC_004AB2_12F9FD_029496_12F9FE_00980B,
  0x12F9FF_00980B_12FA00_009829_12FA01_0295B6_12FA02_0098E2_12FA03_004B33_12FA04_009929,
  0x12FA05_0099A7_12FA06_0099C2_12FA07_0099FE_12FA08_004BCE_12FA09_029B30_12FA0A_009B12,
  0x12FA0B_009C40_12FA0C_009CFD_12FA0D_004CCE_12FA0E_004CED_12FA0F_009D67_12FA10_02A0CE,
  0x12FA11_004CF8_12FA12_02A105_12FA13_02A20E_12FA14_02A291_12FA15_009EBB_12FA16_004D56,
  0x12FA17_009EF9_12FA18_009EFE_12FA19_009F05_12FA1A_009F0F_12FA1B_009F16_12FA1C_009F3B,
  0x12FA1D_02A600]

/-- Combining classes other than 0, each with sets of its characters. -/
def combiningRows : List (Nat × Nat) := [
  (1, 0x000334_000338_001CD4_001CD4_001CE2_001CE8_0020D2_0020D3_0020D8_0020DA_0020E5_0020E6),
  (1, 0x0020EA_0020EB_010A39_010A39_016AF0_016AF4_01BC9E_01BC9E_01D167_01D169),
  (6, 0x016FF0_016FF1),
  (7, 0x00093C_00093C_0009BC_0009BC_000A3C_000A3C_000ABC_000ABC_000B3C_000B3C_000C3C_000C3C),
  (7, 0x000CBC_000CBC_001037_001037_001B34_001B34_001BE6_001BE6_001C37_001C37_00A9B3_00A9B3),
  (7, 0x0110BA_0110BA_011173_011173_0111CA_0111CA_011236_011236_0112E9_0112E9_01133B_01133C),
  (7, 0x011446_011446_0114C3_0114C3_0115C0_0115C0_0116B7_0116B7_01183A_01183A_011943_011943),
  (7, 0x011D42_011D42_01E94A_01E94A),
  (8, 0x003099_00309A),
  (9, 0x00094D_00094D_0009CD_0009CD_000A4D_000A4D_000ACD_000ACD_000B4D_000B4D_000BCD_000BCD),
  (9, 0x000C4D_000C4D_000CCD_000CCD_000D3B_000D3C_000D4D_000D4D_000DCA_000DCA_000E3A_000E3A),
  (9, 0x000EBA_000EBA_000F84_000F84_001039_00103A_001714_001715_001734_001734_0017D2_0017D2),
  (9, 0x001A60_001A60_001B44_001B44_001BAA_001BAB_001BF2_001BF3_002D7F_002D7F_00A806_00A806),
  (9, 0x00A82C_00A82C_00A8C4_00A8C4_00A953_00A953_00A9C0_00A9C0_00AAF6_00AAF6_00ABED_00ABED),
  (9, 0x010A3F_010A3F_011046_011046_011070_011070_01107F_01107F_0110B9_0110B9_011133_011134),
  (9, 0x0111C0_0111C0_011235_011235_0112EA_0112EA_01134D_01134D_011442_011442_0114C2_0114C2),
  (9, 0x0115BF_0115BF_01163F_01163F_0116B6_0116B6_01172B_01172B_011839_011839_01193D_01193E),
  (9, 0x0119E0_0119E0_011A34_011A34_011A47_011A47_011A99_011A99_011C3F_011C3F_011D44_011D45),
  (9, 0x011D97_011D97),
  (10, 0x0005B0_0005B0),
  (11, 0x0005B1_0005B1),
  (12, 0x0005B2_0005B2),
  (13, 0x0005B3_0005B3),
  (14, 0x0005B4_0005B4),
  (15, 0x0005B5_0005B5),
  (16, 0x0005B6_0005B6),
  (17, 0x0005B7_0005B7),
  (18, 0x0005B8_0005B8_0005C7_0005C7),
  (19, 0x0005B9_0005BA),
  (20, 0x0005BB_0005BB),
  (21, 0x0005BC_0005BC),
  (22, 0x0005BD_0005BD),
  (23, 0x0005BF_0005BF),
  (24, 0x0005C1_0005C1),
  (25, 0x0005C2_0005C2),
  (26, 0x00FB1E_00FB1E),
  (27, 0x00064B_00064B_0008F0_0008F0),
  (28, 0x00064C_00064C_0008F1_0008F1),
  (29, 0x00064D_00064D_0008F2_0008F2),
  (30, 0x000618_000618_00064E_00064E),
  (31, 0x000619_000619_00064F_00064F),
  (32, 0x00061A_00061A_000650_000650),
  (33, 0x000651_000651),
  (34, 0x000652_000652),
  (35, 0x000670_000670),
  (36, 0x000711_000711),
  (84, 0x000C55_000C55),
  (91, 0x000C56_000C56),
  (103, 0x000E38_000E39),
  (107, 0x000E48_000E4B),
  (118, 0x000EB8_000EB9),
  (122, 0x000EC8_000ECB),
  (129, 0x000F71_000F71),
  (130, 0x000F72_000F72_000F7A_000F7D_000F80_000F80),
  (132, 0x000F74_000F74),
  (202, 0x000321_000322_000327_000328_001DD0_001DD0),
  (214, 0x001DCE_001DCE),
  (216, 0x00031B_00031B_000F39_000F39_01D165_01D166_01D16E_01D172),
  (218, 0x001DFA_001DFA_00302A_00302A),
  (220, 0x000316_000319_00031C_000320_000323_000326_000329_000333_000339_00033C_000347_000349),
  (220, 0x00034D_00034E_000353_000356_000359_00035A_000591_000591_000596_000596_00059B_00059B),
  (220, 0x0005A2_0005A7_0005AA_0005AA_0005C5_0005C5_000655_000656_00065C_00065C_00065F_00065F),
  (220, 0x0006E3_0006E3_0006EA_0006EA_0006ED_0006ED_000731_000731_000734_000734_000737_000739),
  (220, 0x00073B_00073C_00073E_00073E_000742_100748_0007F2_0007F2_0007FD_0007FD_000859_00085B),
  (220, 0x000899_00089B_0008CF_0008D3_0008E3_0008E3_0008E6_0008E6_0008E9_0008E9_0008ED_0008EF),
  (220, 0x0008F6_0008F6_0008F9_0008FA_000952_000952_000F18_000F19_000F35_100F37_000FC6_000FC6),
  (220, 0x00108D_00108D_00193B_00193B_001A18_001A18_001A7F_001A7F_001AB5_001ABA_001ABD_001ABD),
  (220, 0x001ABF_001AC0_001AC3_001AC4_001ACA_001ACA_001B6C_001B6C_001CD5_001CD9_001CDC_001CDF),
  (220, 0x001CED_001CED_001DC2_001DC2_001DCA_001DCA_001DCF_001DCF_001DF9_001DF9_001DFD_101DFF),
  (220, 0x0020E8_0020E8_0020EC_0020EF_00A92B_00A92D_00AAB4_00AAB4_00FE27_00FE2D_0101FD_0101FD),
  (220, 0x0102E0_0102E0_010A0D_010A0D_010A3A_010A3A_010AE6_010AE6_010F46_010F47_010F4B_010F4B),
  (220, 0x010F4D_010F50_010F83_110F85_01D17B_01D182_01D18A_01D18B_01E8D0_01E8D6),
  (222, 0x00059A_00059A_0005AD_0005AD_001939_001939_00302D_00302D),
  (224, 0x00302E_00302F),
  (226, 0x01D16D_01D16D),
  (228, 0x0005AE_0005AE_0018A9_0018A9_001DF7_001DF8_00302B_00302B),
  (230, 0x000300_000314_00033D_000344_000346_000346_00034A_00034C_000350_000352_000357_000357),
  (230, 0x00035B_00035B_000363_00036F_000483_000487_000592_000595_000597_000599_00059C_0005A1),
  (230, 0x0005A8_0005A9_0005AB_0005AC_0005AF_0005AF_0005C4_0005C4_000610_000617_000653_000654),
  (230, 0x000657_00065B_00065D_00065E_0006D6_0006DC_0006DF_0006E2_0006E4_0006E4_0006E7_0006E8),
  (230, 0x0006EB_0006EC_000730_000730_000732_000733_000735_000736_00073A_00073A_00073D_00073D),
  (230, 0x00073F_000741_000743_100747_000749_00074A_0007EB_0007F1_0007F3_0007F3_000816_000819),
  (230, 0x00081B_000823_000825_000827_000829_00082D_000898_000898_00089C_00089F_0008CA_0008CE),
  (230, 0x0008D4_0008E1_0008E4_0008E5_0008E7_0008E8_0008EA_0008EC_0008F3_0008F5_0008F7_0008F8),
  (230, 0x0008FB_0008FF_000951_000951_000953_000954_0009FE_0009FE_000F82_000F83_000F86_000F87),
  (230, 0x00135D_00135F_0017DD_0017DD_00193A_00193A_001A17_001A17_001A75_001A7C_001AB0_001AB4),
  (230, 0x001ABB_001ABC_001AC1_001AC2_001AC5_001AC9_001ACB_001ACE_001B6B_001B6B_001B6D_001B73),
  (230, 0x001CD0_001CD2_001CDA_001CDB_001CE0_001CE0_001CF4_001CF4_001CF8_001CF9_001DC0_001DC1),
  (230, 0x001DC3_001DC9_001DCB_001DCC_001DD1_001DF5_001DFB_001DFB_001DFE_001DFE_0020D0_0020D1),
  (230, 0x0020D4_0020D7_0020DB_0020DC_0020E1_0020E1_0020E7_1020E9_0020F0_0020F0_002CEF_002CF1),
  (230, 0x002DE0_002DFF_00A66F_00A66F_00A674_00A67D_00A69E_00A69F_00A6F0_00A6F1_00A8E0_00A8F1),
  (230, 0x00AAB0_00AAB0_00AAB2_00AAB3_00AAB7_00AAB8_00AABE_00AABF_00AAC1_00AAC1_00FE20_00FE26),
  (230, 0x00FE2E_00FE2F_010376_01037A_010A0F_010A0F_010A38_010A38_010AE5_010AE5_010D24_010D27),
  (230, 0x010EAB_010EAC_010F48_010F4A_010F4C_010F4C_010F82_110F84_011100_011102_011366_01136C),
  (230, 0x011370_011374_01145E_01145E_016B30_016B36_01D185_01D189_01D1AA_01D1AD_01D242_01D244),
  (230, 0x01E000_01E006_01E008_01E018_01E01B_01E021_01E023_01E024_01E026_01E02A_01E130_01E136),
  (230, 0x01E2AE_01E2AE_01E2EC_01E2EF_01E944_01E949),
  (232, 0x000315_000315_00031A_00031A_000358_000358_001DF6_001DF6_00302C_00302C),
  (233, 0x00035C_00035C_00035F_00035F_000362_000362_001DFC_001DFC),
  (234, 0x00035D_00035E_000360_000361_001DCD_001DCD),
  (240, 0x000345_000345)]

end FieldOrder.Text
