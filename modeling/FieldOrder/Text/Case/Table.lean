namespace FieldOrder.Text

def uppercaseRows : List Nat := [
  0x0000C0_0000D6_0000D8_0000DE_000100_100136_000139_100147_00014A_100176_000178_000179,
  0x00017B_10017D_000181_000182_000184_000184_000186_000187_000189_00018B_00018E_000191,
  0x000193_000194_000196_000198_00019C_00019D_00019F_0001A0_0001A2_1001A4_0001A6_0001A7,
  0x0001A9_0001A9_0001AC_0001AC_0001AE_0001AF_0001B1_0001B3_0001B5_0001B5_0001B7_0001B8,
  0x0001BC_0001BC_0001C4_0001C4_0001C7_0001C7_0001CA_0001CA_0001CD_1001DB_0001DE_1001EE,
  0x0001F1_0001F1_0001F4_0001F4_0001F6_0001F8_0001FA_100232_00023A_00023B_00023D_00023E,
  0x000241_000241_000243_000246_000248_10024E_000370_100372_000376_000376_00037F_00037F,
  0x000386_000386_000388_00038A_00038C_00038C_00038E_00038F_000391_0003A1_0003A3_0003AB,
  0x0003CF_0003CF_0003D2_0003D4_0003D8_1003EE_0003F4_0003F4_0003F7_0003F7_0003F9_0003FA,
  0x0003FD_00042F_000460_100480_00048A_1004BE_0004C0_0004C1_0004C3_1004CD_0004D0_10052E,
  0x000531_000556_0010A0_0010C5_0010C7_0010C7_0010CD_0010CD_0013A0_0013F5_001C90_001CBA,
  0x001CBD_001CBF_001E00_101E94_001E9E_101EFE_001F08_001F0F_001F18_001F1D_001F28_001F2F,
  0x001F38_001F3F_001F48_001F4D_001F59_101F5F_001F68_001F6F_001FB8_001FBB_001FC8_001FCB,
  0x001FD8_001FDB_001FE8_001FEC_001FF8_001FFB_002102_002102_002107_002107_00210B_00210D,
  0x002110_002112_002115_002115_002119_00211D_002124_102128_00212A_00212D_002130_002133,
  0x00213E_00213F_002145_002145_002160_00216F_002183_002183_0024B6_0024CF_002C00_002C2F,
  0x002C60_002C60_002C62_002C64_002C67_102C6B_002C6D_002C70_002C72_002C72_002C75_002C75,
  0x002C7E_002C80_002C82_102CE2_002CEB_102CED_002CF2_002CF2_00A640_10A66C_00A680_10A69A,
  0x00A722_10A72E_00A732_10A76E_00A779_10A77B_00A77D_00A77E_00A780_10A786_00A78B_10A78D,
  0x00A790_10A792_00A796_10A7A8_00A7AA_00A7AE_00A7B0_00A7B4_00A7B6_10A7C2_00A7C4_00A7C7,
  0x00A7C9_00A7C9_00A7D0_00A7D0_00A7D6_10A7D8_00A7F5_00A7F5_00FF21_00FF3A_010400_010427,
  0x0104B0_0104D3_010570_01057A_01057C_01058A_01058C_010592_010594_010595_010C80_010CB2,
  0x0118A0_0118BF_016E40_016E5F_01D400_01D419_01D434_01D44D_01D468_01D481_01D49C_01D49C,
  0x01D49E_01D49F_01D4A2_01D4A2_01D4A5_01D4A6_01D4A9_01D4AC_01D4AE_01D4B5_01D4D0_01D4E9,
  0x01D504_01D505_01D507_01D50A_01D50D_01D514_01D516_01D51C_01D538_01D539_01D53B_01D53E,
  0x01D540_01D544_01D546_01D546_01D54A_01D550_01D56C_01D585_01D5A0_01D5B9_01D5D4_01D5ED,
  0x01D608_01D621_01D63C_01D655_01D670_01D689_01D6A8_01D6C0_01D6E2_01D6FA_01D71C_01D734,
  0x01D756_01D76E_01D790_01D7A8_01D7CA_01D7CA_01E900_01E921_01F130_01F149_01F150_01F169,
  0x01F170_01F189]

def lowercaseRows : List Nat := [
  0x0000AA_0000AA_0000B5_0000B5_0000BA_0000BA_0000DF_0000F6_0000F8_0000FF_000101_100135,
  0x000137_000138_00013A_100146_000148_000149_00014B_100177_00017A_10017C_00017E_000180,
  0x000183_100185_000188_000188_00018C_00018D_000192_000192_000195_000195_000199_00019B,
  0x00019E_00019E_0001A1_1001A5_0001A8_0001A8_0001AA_0001AB_0001AD_0001AD_0001B0_0001B0,
  0x0001B4_1001B6_0001B9_0001BA_0001BD_0001BF_0001C6_0001C6_0001C9_0001C9_0001CC_1001DA,
  0x0001DC_0001DD_0001DF_1001ED_0001EF_0001F0_0001F3_1001F5_0001F9_100231_000233_000239,
  0x00023C_00023C_00023F_000240_000242_000242_000247_10024D_00024F_000293_000295_0002B8,
  0x0002C0_0002C1_0002E0_0002E4_000345_000345_000371_100373_000377_000377_00037A_00037D,
  0x000390_000390_0003AC_0003CE_0003D0_0003D1_0003D5_0003D7_0003D9_1003ED_0003EF_0003F3,
  0x0003F5_0003F5_0003F8_0003F8_0003FB_0003FC_000430_00045F_000461_100481_00048B_1004BF,
  0x0004C2_1004CC_0004CE_0004CF_0004D1_10052F_000560_000588_0010D0_0010FA_0010FD_0010FF,
  0x0013F8_0013FD_001C80_001C88_001D00_001DBF_001E01_101E93_001E95_001E9D_001E9F_101EFD,
  0x001EFF_001F07_001F10_001F15_001F20_001F27_001F30_001F37_001F40_001F45_001F50_001F57,
  0x001F60_001F67_001F70_001F7D_001F80_001F87_001F90_001F97_001FA0_001FA7_001FB0_001FB4,
  0x001FB6_001FB7_001FBE_001FBE_001FC2_001FC4_001FC6_001FC7_001FD0_001FD3_001FD6_001FD7,
  0x001FE0_001FE7_001FF2_001FF4_001FF6_001FF7_002071_002071_00207F_00207F_002090_00209C,
  0x00210A_00210A_00210E_00210F_002113_002113_00212F_00212F_002134_002134_002139_002139,
  0x00213C_00213D_002146_002149_00214E_00214E_002170_00217F_002184_002184_0024D0_0024E9,
  0x002C30_002C5F_002C61_002C61_002C65_002C66_002C68_102C6C_002C71_002C71_002C73_002C74,
  0x002C76_002C7D_002C81_102CE1_002CE3_002CE4_002CEC_102CEE_002CF3_002CF3_002D00_002D25,
  0x002D27_002D27_002D2D_002D2D_00A641_10A66D_00A681_10A699_00A69B_00A69D_00A723_10A72D,
  0x00A72F_00A731_00A733_10A76D_00A76F_00A778_00A77A_10A77C_00A77F_10A787_00A78C_10A78E,
  0x00A791_00A791_00A793_00A795_00A797_10A7A9_00A7AF_00A7AF_00A7B5_10A7C3_00A7C8_10A7CA,
  0x00A7D1_10A7D9_00A7F6_00A7F6_00A7F8_00A7FA_00AB30_00AB5A_00AB5C_00AB68_00AB70_00ABBF,
  0x00FB00_00FB06_00FB13_00FB17_00FF41_00FF5A_010428_01044F_0104D8_0104FB_010597_0105A1,
  0x0105A3_0105B1_0105B3_0105B9_0105BB_0105BC_010780_010780_010783_010785_010787_0107B0,
  0x0107B2_0107BA_010CC0_010CF2_0118C0_0118DF_016E60_016E7F_01D41A_01D433_01D44E_01D454,
  0x01D456_01D467_01D482_01D49B_01D4B6_01D4B9_01D4BB_01D4BB_01D4BD_01D4C3_01D4C5_01D4CF,
  0x01D4EA_01D503_01D51E_01D537_01D552_01D56B_01D586_01D59F_01D5BA_01D5D3_01D5EE_01D607,
  0x01D622_01D63B_01D656_01D66F_01D68A_01D6A5_01D6C2_01D6DA_01D6DC_01D6E1_01D6FC_01D714,
  0x01D716_01D71B_01D736_01D74E_01D750_01D755_01D770_01D788_01D78A_01D78F_01D7AA_01D7C2,
  0x01D7C4_01D7C9_01D7CB_01D7CB_01DF00_01DF09_01DF0B_01DF1E_01E922_01E943]

def titlecaseRows : List Nat := [
  0x0001C5_0001C5_0001C8_0001C8_0001CB_0001CB_0001F2_0001F2_001F88_001F8F_001F98_001F9F,
  0x001FA8_001FAF_001FBC_001FBC_001FCC_001FCC_001FFC_001FFC]

/-- Characters that the rule of the final sigma looks past, as a set. -/
def caseIgnorableRows : List Nat := [
  0x000027_000027_00002E_00002E_00003A_00003A_00005E_100060_0000A8_0000A8_0000AD_1000AF,
  0x0000B4_0000B4_0000B7_0000B8_0002B0_00036F_000374_000375_00037A_00037A_000384_000385,
  0x000387_000387_000483_000489_000559_000559_00055F_00055F_000591_0005BD_0005BF_0005BF,
  0x0005C1_0005C2_0005C4_0005C5_0005C7_0005C7_0005F4_0005F4_000600_000605_000610_00061A,
  0x00061C_00061C_000640_000640_00064B_00065F_000670_000670_0006D6_0006DD_0006DF_0006E8,
  0x0006EA_0006ED_00070F_100711_000730_00074A_0007A6_0007B0_0007EB_0007F5_0007FA_0007FA,
  0x0007FD_0007FD_000816_00082D_000859_00085B_000888_000888_000890_000891_000898_00089F,
  0x0008C9_000902_00093A_10093C_000941_000948_00094D_00094D_000951_000957_000962_000963,
  0x000971_000971_000981_000981_0009BC_0009BC_0009C1_0009C4_0009CD_0009CD_0009E2_0009E3,
  0x0009FE_0009FE_000A01_000A02_000A3C_000A3C_000A41_000A42_000A47_000A48_000A4B_000A4D,
  0x000A51_000A51_000A70_000A71_000A75_000A75_000A81_000A82_000ABC_000ABC_000AC1_000AC5,
  0x000AC7_000AC8_000ACD_000ACD_000AE2_000AE3_000AFA_000AFF_000B01_000B01_000B3C_000B3C,
  0x000B3F_000B3F_000B41_000B44_000B4D_000B4D_000B55_000B56_000B62_000B63_000B82_000B82,
  0x000BC0_000BC0_000BCD_000BCD_000C00_000C00_000C04_000C04_000C3C_000C3C_000C3E_000C40,
  0x000C46_000C48_000C4A_000C4D_000C55_000C56_000C62_000C63_000C81_000C81_000CBC_000CBC,
  0x000CBF_000CBF_000CC6_000CC6_000CCC_000CCD_000CE2_000CE3_000D00_000D01_000D3B_000D3C,
  0x000D41_000D44_000D4D_000D4D_000D62_000D63_000D81_000D81_000DCA_000DCA_000DD2_000DD4,
  0x000DD6_000DD6_000E31_000E31_000E34_000E3A_000E46_000E4E_000EB1_000EB1_000EB4_000EBC,
  0x000EC6_000EC6_000EC8_000ECD_000F18_000F19_000F35_100F39_000F71_000F7E_000F80_000F84,
  0x000F86_000F87_000F8D_000F97_000F99_000FBC_000FC6_000FC6_00102D_001030_001032_001037,
  0x001039_00103A_00103D_00103E_001058_001059_00105E_001060_001071_001074_001082_001082,
  0x001085_001086_00108D_00108D_00109D_00109D_0010FC_0010FC_00135D_00135F_001712_001714,
  0x001732_001733_001752_001753_001772_001773_0017B4_0017B5_0017B7_0017BD_0017C6_0017C6,
  0x0017C9_0017D3_0017D7_0017D7_0017DD_0017DD_00180B_00180F_001843_001843_001885_001886,
  0x0018A9_0018A9_001920_001922_001927_001928_001932_001932_001939_00193B_001A17_001A18,
  0x001A1B_001A1B_001A56_001A56_001A58_001A5E_001A60_101A62_001A65_001A6C_001A73_001A7C,
  0x001A7F_001A7F_001AA7_001AA7_001AB0_001ACE_001B00_001B03_001B34_001B34_001B36_001B3A,
  0x001B3C_001B3C_001B42_001B42_001B6B_001B73_001B80_001B81_001BA2_001BA5_001BA8_001BA9,
  0x001BAB_001BAD_001BE6_001BE6_001BE8_001BE9_001BED_001BED_001BEF_001BF1_001C2C_001C33,
  0x001C36_001C37_001C78_001C7D_001CD0_001CD2_001CD4_001CE0_001CE2_001CE8_001CED_001CED,
  0x001CF4_001CF4_001CF8_001CF9_001D2C_001D6A_001D78_001D78_001D9B_001DFF_001FBD_001FBD,
  0x001FBF_001FC1_001FCD_001FCF_001FDD_001FDF_001FED_001FEF_001FFD_001FFE_00200B_00200F,
  0x002018_002019_002024_002024_002027_002027_00202A_00202E_002060_002064_002066_00206F,
  0x002071_002071_00207F_00207F_002090_00209C_0020D0_0020F0_002C7C_002C7D_002CEF_002CF1,
  0x002D6F_002D6F_002D7F_002D7F_002DE0_002DFF_002E2F_002E2F_003005_003005_00302A_00302D,
  0x003031_003035_00303B_00303B_003099_00309E_0030FC_0030FE_00A015_00A015_00A4F8_00A4FD,
  0x00A60C_00A60C_00A66F_00A672_00A674_00A67D_00A67F_00A67F_00A69C_00A69F_00A6F0_00A6F1,
  0x00A700_00A721_00A770_00A770_00A788_00A78A_00A7F2_00A7F4_00A7F8_00A7F9_00A802_00A802,
  0x00A806_00A806_00A80B_00A80B_00A825_00A826_00A82C_00A82C_00A8C4_00A8C5_00A8E0_00A8F1,
  0x00A8FF_00A8FF_00A926_00A92D_00A947_00A951_00A980_00A982_00A9B3_00A9B3_00A9B6_00A9B9,
  0x00A9BC_00A9BD_00A9CF_00A9CF_00A9E5_00A9E6_00AA29_00AA2E_00AA31_00AA32_00AA35_00AA36,
  0x00AA43_00AA43_00AA4C_00AA4C_00AA70_00AA70_00AA7C_00AA7C_00AAB0_00AAB0_00AAB2_00AAB4,
  0x00AAB7_00AAB8_00AABE_00AABF_00AAC1_00AAC1_00AADD_00AADD_00AAEC_00AAED_00AAF3_00AAF4,
  0x00AAF6_00AAF6_00AB5B_00AB5F_00AB69_00AB6B_00ABE5_00ABE5_00ABE8_00ABE8_00ABED_00ABED,
  0x00FB1E_00FB1E_00FBB2_00FBC2_00FE00_00FE0F_00FE13_00FE13_00FE20_00FE2F_00FE52_00FE52,
  0x00FE55_00FE55_00FEFF_00FEFF_00FF07_00FF07_00FF0E_00FF0E_00FF1A_00FF1A_00FF3E_10FF40,
  0x00FF70_00FF70_00FF9E_00FF9F_00FFE3_00FFE3_00FFF9_00FFFB_0101FD_0101FD_0102E0_0102E0,
  0x010376_01037A_010780_010785_010787_0107B0_0107B2_0107BA_010A01_010A03_010A05_010A06,
  0x010A0C_010A0F_010A38_010A3A_010A3F_010A3F_010AE5_010AE6_010D24_010D27_010EAB_010EAC,
  0x010F46_010F50_010F82_010F85_011001_011001_011038_011046_011070_011070_011073_011074,
  0x01107F_011081_0110B3_0110B6_0110B9_0110BA_0110BD_0110BD_0110C2_0110C2_0110CD_0110CD,
  0x011100_011102_011127_01112B_01112D_011134_011173_011173_011180_011181_0111B6_0111BE,
  0x0111C9_0111CC_0111CF_0111CF_01122F_011231_011234_011234_011236_011237_01123E_01123E,
  0x0112DF_0112DF_0112E3_0112EA_011300_011301_01133B_01133C_011340_011340_011366_01136C,
  0x011370_011374_011438_01143F_011442_011444_011446_011446_01145E_01145E_0114B3_0114B8,
  0x0114BA_0114BA_0114BF_0114C0_0114C2_0114C3_0115B2_0115B5_0115BC_0115BD_0115BF_0115C0,
  0x0115DC_0115DD_011633_01163A_01163D_01163D_01163F_011640_0116AB_1116AD_0116B0_0116B5,
  0x0116B7_0116B7_01171D_01171F_011722_011725_011727_01172B_01182F_011837_011839_01183A,
  0x01193B_01193C_01193E_01193E_011943_011943_0119D4_0119D7_0119DA_0119DB_0119E0_0119E0,
  0x011A01_011A0A_011A33_011A38_011A3B_011A3E_011A47_011A47_011A51_011A56_011A59_011A5B,
  0x011A8A_011A96_011A98_011A99_011C30_011C36_011C38_011C3D_011C3F_011C3F_011C92_011CA7,
  0x011CAA_011CB0_011CB2_011CB3_011CB5_011CB6_011D31_011D36_011D3A_011D3A_011D3C_011D3D,
  0x011D3F_011D45_011D47_011D47_011D90_011D91_011D95_111D97_011EF3_011EF4_013430_013438,
  0x016AF0_016AF4_016B30_016B36_016B40_016B43_016F4F_016F4F_016F8F_016F9F_016FE0_016FE1,
  0x016FE3_016FE4_01AFF0_01AFF3_01AFF5_01AFFB_01AFFD_01AFFE_01BC9D_01BC9E_01BCA0_01BCA3,
  0x01CF00_01CF2D_01CF30_01CF46_01D167_01D169_01D173_01D182_01D185_01D18B_01D1AA_01D1AD,
  0x01D242_01D244_01DA00_01DA36_01DA3B_01DA6C_01DA75_01DA75_01DA84_01DA84_01DA9B_01DA9F,
  0x01DAA1_01DAAF_01E000_01E006_01E008_01E018_01E01B_01E021_01E023_01E024_01E026_01E02A,
  0x01E130_01E13D_01E2AE_01E2AE_01E2EC_01E2EF_01E8D0_01E8D6_01E944_01E94B_01F3FB_01F3FF,
  0x0E0001_0E0001_0E0020_0E007F_0E0100_0E01EF]

def toLowerRows : List Nat := [
  0x1000C0_2000D6_0000E0_1000D8_2000DE_0000F8_100100_30012E_000101_100130_000069_000307,
  0x100132_300136_000133_100139_300147_00013A_10014A_300176_00014B_100178_0000FF,
  0x100179_30017D_00017A_100181_000253_100182_300184_000183_100186_000254_100187_000188,
  0x100189_20018A_000256_10018B_00018C_10018E_0001DD_10018F_000259_100190_00025B_100191_000192,
  0x100193_000260_100194_000263_100196_000269_100197_000268_100198_000199_10019C_00026F,
  0x10019D_000272_10019F_000275_1001A0_3001A4_0001A1_1001A6_000280_1001A7_0001A8_1001A9_000283,
  0x1001AC_0001AD_1001AE_000288_1001AF_0001B0_1001B1_2001B2_00028A_1001B3_3001B5_0001B4,
  0x1001B7_000292_1001B8_0001B9_1001BC_0001BD_1001C4_0001C6_1001C5_0001C6_1001C7_0001C9,
  0x1001C8_0001C9_1001CA_0001CC_1001CB_3001DB_0001CC_1001DE_3001EE_0001DF_1001F1_0001F3,
  0x1001F2_3001F4_0001F3_1001F6_000195_1001F7_0001BF_1001F8_30021E_0001F9_100220_00019E,
  0x100222_300232_000223_10023A_002C65_10023B_00023C_10023D_00019A_10023E_002C66_100241_000242,
  0x100243_000180_100244_000289_100245_00028C_100246_30024E_000247_100370_300372_000371,
  0x100376_000377_10037F_0003F3_100386_0003AC_100388_20038A_0003AD_10038C_0003CC,
  0x10038E_20038F_0003CD_100391_2003A1_0003B1_1003A3_2003AB_0003C3_1003CF_0003D7,
  0x1003D8_3003EE_0003D9_1003F4_0003B8_1003F7_0003F8_1003F9_0003F2_1003FA_0003FB,
  0x1003FD_2003FF_00037B_100400_20040F_000450_100410_20042F_000430_100460_300480_000461,
  0x10048A_3004BE_00048B_1004C0_0004CF_1004C1_3004CD_0004C2_1004D0_30052E_0004D1,
  0x100531_200556_000561_1010A0_2010C5_002D00_1010C7_002D27_1010CD_002D2D_1013A0_2013EF_00AB70,
  0x1013F0_2013F5_0013F8_101C90_201CBA_0010D0_101CBD_201CBF_0010FD_101E00_301E94_001E01,
  0x101E9E_0000DF_101EA0_301EFE_001EA1_101F08_201F0F_001F00_101F18_201F1D_001F10,
  0x101F28_201F2F_001F20_101F38_201F3F_001F30_101F48_201F4D_001F40_101F59_301F5F_001F51,
  0x101F68_201F6F_001F60_101F88_201F8F_001F80_101F98_201F9F_001F90_101FA8_201FAF_001FA0,
  0x101FB8_201FB9_001FB0_101FBA_201FBB_001F70_101FBC_001FB3_101FC8_201FCB_001F72_101FCC_001FC3,
  0x101FD8_201FD9_001FD0_101FDA_201FDB_001F76_101FE8_201FE9_001FE0_101FEA_201FEB_001F7A,
  0x101FEC_001FE5_101FF8_201FF9_001F78_101FFA_201FFB_001F7C_101FFC_001FF3_102126_0003C9,
  0x10212A_00006B_10212B_0000E5_102132_00214E_102160_20216F_002170_102183_002184,
  0x1024B6_2024CF_0024D0_102C00_202C2F_002C30_102C60_002C61_102C62_00026B_102C63_001D7D,
  0x102C64_00027D_102C67_302C6B_002C68_102C6D_000251_102C6E_000271_102C6F_000250_102C70_000252,
  0x102C72_002C73_102C75_002C76_102C7E_202C7F_00023F_102C80_302CE2_002C81_102CEB_302CED_002CEC,
  0x102CF2_002CF3_10A640_30A66C_00A641_10A680_30A69A_00A681_10A722_30A72E_00A723,
  0x10A732_30A76E_00A733_10A779_30A77B_00A77A_10A77D_001D79_10A77E_30A786_00A77F_10A78B_00A78C,
  0x10A78D_000265_10A790_30A792_00A791_10A796_30A7A8_00A797_10A7AA_000266_10A7AB_00025C,
  0x10A7AC_000261_10A7AD_00026C_10A7AE_00026A_10A7B0_00029E_10A7B1_000287_10A7B2_00029D,
  0x10A7B3_00AB53_10A7B4_30A7C2_00A7B5_10A7C4_00A794_10A7C5_000282_10A7C6_001D8E,
  0x10A7C7_30A7C9_00A7C8_10A7D0_00A7D1_10A7D6_30A7D8_00A7D7_10A7F5_00A7F6_10FF21_20FF3A_00FF41,
  0x110400_210427_010428_1104B0_2104D3_0104D8_110570_310594_010597_110571_310579_010598,
  0x11057D_310589_0105A4_11058D_310591_0105B4_110595_0105BC_110C80_210CB2_010CC0,
  0x1118A0_2118BF_0118C0_116E40_216E5F_016E60_11E900_21E921_01E922]

def toUpperRows : List Nat := [
  0x1000B5_00039C_1000DF_000053_000053_1000E0_2000F6_0000C0_1000F8_2000FE_0000D8_1000FF_000178,
  0x100101_30012F_000100_100131_000049_100133_300137_000132_10013A_300148_000139,
  0x100149_0002BC_00004E_10014B_300177_00014A_10017A_30017E_000179_10017F_000053_100180_000243,
  0x100183_300185_000182_100188_000187_10018C_00018B_100192_000191_100195_0001F6_100199_000198,
  0x10019A_00023D_10019E_000220_1001A1_3001A5_0001A0_1001A8_0001A7_1001AD_0001AC_1001B0_0001AF,
  0x1001B4_3001B6_0001B3_1001B9_0001B8_1001BD_0001BC_1001BF_0001F7_1001C5_0001C4_1001C6_0001C4,
  0x1001C8_0001C7_1001C9_0001C7_1001CB_0001CA_1001CC_0001CA_1001CE_3001DC_0001CD_1001DD_00018E,
  0x1001DF_3001EF_0001DE_1001F0_00004A_00030C_1001F2_0001F1_1001F3_0001F1_1001F5_0001F4,
  0x1001F9_30021F_0001F8_100223_300233_000222_10023C_00023B_10023F_200240_002C7E_100242_000241,
  0x100247_30024F_000246_100250_002C6F_100251_002C6D_100252_002C70_100253_000181_100254_000186,
  0x100256_200257_000189_100259_00018F_10025B_000190_10025C_00A7AB_100260_000193_100261_00A7AC,
  0x100263_000194_100265_00A78D_100266_00A7AA_100268_000197_100269_000196_10026A_00A7AE,
  0x10026B_002C62_10026C_00A7AD_10026F_00019C_100271_002C6E_100272_00019D_100275_00019F,
  0x10027D_002C64_100280_0001A6_100282_00A7C5_100283_0001A9_100287_00A7B1_100288_0001AE,
  0x100289_000244_10028A_20028B_0001B1_10028C_000245_100292_0001B7_10029D_00A7B2_10029E_00A7B0,
  0x100345_000399_100371_300373_000370_100377_000376_10037B_20037D_0003FD,
  0x100390_000399_000308_000301_1003AC_000386_1003AD_2003AF_000388_1003B0_0003A5_000308_000301,
  0x1003B1_2003C1_000391_1003C2_0003A3_1003C3_2003CB_0003A3_1003CC_00038C_1003CD_2003CE_00038E,
  0x1003D0_000392_1003D1_000398_1003D5_0003A6_1003D6_0003A0_1003D7_0003CF_1003D9_3003EF_0003D8,
  0x1003F0_00039A_1003F1_0003A1_1003F2_0003F9_1003F3_00037F_1003F5_000395_1003F8_0003F7,
  0x1003FB_0003FA_100430_20044F_000410_100450_20045F_000400_100461_300481_000460,
  0x10048B_3004BF_00048A_1004C2_3004CE_0004C1_1004CF_0004C0_1004D1_30052F_0004D0,
  0x100561_200586_000531_100587_000535_000552_1010D0_2010FA_001C90_1010FD_2010FF_001CBD,
  0x1013F8_2013FD_0013F0_101C80_000412_101C81_000414_101C82_00041E_101C83_201C84_000421,
  0x101C85_000422_101C86_00042A_101C87_000462_101C88_00A64A_101D79_00A77D_101D7D_002C63,
  0x101D8E_00A7C6_101E01_301E95_001E00_101E96_000048_000331_101E97_000054_000308,
  0x101E98_000057_00030A_101E99_000059_00030A_101E9A_000041_0002BE_101E9B_001E60,
  0x101EA1_301EFF_001EA0_101F00_201F07_001F08_101F10_201F15_001F18_101F20_201F27_001F28,
  0x101F30_201F37_001F38_101F40_201F45_001F48_101F50_0003A5_000313_101F51_301F57_001F59,
  0x101F52_0003A5_000313_000300_101F54_0003A5_000313_000301_101F56_0003A5_000313_000342,
  0x101F60_201F67_001F68_101F70_201F71_001FBA_101F72_201F75_001FC8_101F76_201F77_001FDA,
  0x101F78_201F79_001FF8_101F7A_201F7B_001FEA_101F7C_201F7D_001FFA_101F80_001F08_000399,
  0x101F81_001F09_000399_101F82_001F0A_000399_101F83_001F0B_000399_101F84_001F0C_000399,
  0x101F85_001F0D_000399_101F86_001F0E_000399_101F87_001F0F_000399_101F88_001F08_000399,
  0x101F89_001F09_000399_101F8A_001F0A_000399_101F8B_001F0B_000399_101F8C_001F0C_000399,
  0x101F8D_001F0D_000399_101F8E_001F0E_000399_101F8F_001F0F_000399_101F90_001F28_000399,
  0x101F91_001F29_000399_101F92_001F2A_000399_101F93_001F2B_000399_101F94_001F2C_000399,
  0x101F95_001F2D_000399_101F96_001F2E_000399_101F97_001F2F_000399_101F98_001F28_000399,
  0x101F99_001F29_000399_101F9A_001F2A_000399_101F9B_001F2B_000399_101F9C_001F2C_000399,
  0x101F9D_001F2D_000399_101F9E_001F2E_000399_101F9F_001F2F_000399_101FA0_001F68_000399,
  0x101FA1_001F69_000399_101FA2_001F6A_000399_101FA3_001F6B_000399_101FA4_001F6C_000399,
  0x101FA5_001F6D_000399_101FA6_001F6E_000399_101FA7_001F6F_000399_101FA8_001F68_000399,
  0x101FA9_001F69_000399_101FAA_001F6A_000399_101FAB_001F6B_000399_101FAC_001F6C_000399,
  0x101FAD_001F6D_000399_101FAE_001F6E_000399_101FAF_001F6F_000399_101FB0_201FB1_001FB8,
  0x101FB2_001FBA_000399_101FB3_000391_000399_101FB4_000386_000399_101FB6_000391_000342,
  0x101FB7_000391_000342_000399_101FBC_000391_000399_101FBE_000399_101FC2_001FCA_000399,
  0x101FC3_000397_000399_101FC4_000389_000399_101FC6_000397_000342_101FC7_000397_000342_000399,
  0x101FCC_000397_000399_101FD0_201FD1_001FD8_101FD2_000399_000308_000300,
  0x101FD3_000399_000308_000301_101FD6_000399_000342_101FD7_000399_000308_000342,
  0x101FE0_201FE1_001FE8_101FE2_0003A5_000308_000300_101FE3_0003A5_000308_000301,
  0x101FE4_0003A1_000313_101FE5_001FEC_101FE6_0003A5_000342_101FE7_0003A5_000308_000342,
  0x101FF2_001FFA_000399_101FF3_0003A9_000399_101FF4_00038F_000399_101FF6_0003A9_000342,
  0x101FF7_0003A9_000342_000399_101FFC_0003A9_000399_10214E_002132_102170_20217F_002160,
  0x102184_002183_1024D0_2024E9_0024B6_102C30_202C5F_002C00_102C61_002C60_102C65_00023A,
  0x102C66_00023E_102C68_302C6C_002C67_102C73_002C72_102C76_002C75_102C81_302CE3_002C80,
  0x102CEC_302CEE_002CEB_102CF3_002CF2_102D00_202D25_0010A0_102D27_0010C7_102D2D_0010CD,
  0x10A641_30A66D_00A640_10A681_30A69B_00A680_10A723_30A72F_00A722_10A733_30A76F_00A732,
  0x10A77A_30A77C_00A779_10A77F_30A787_00A77E_10A78C_00A78B_10A791_30A793_00A790_10A794_00A7C4,
  0x10A797_30A7A9_00A796_10A7B5_30A7C3_00A7B4_10A7C8_30A7CA_00A7C7_10A7D1_00A7D0,
  0x10A7D7_30A7D9_00A7D6_10A7F6_00A7F5_10AB53_00A7B3_10AB70_20ABBF_0013A0_10FB00_000046_000046,
  0x10FB01_000046_000049_10FB02_000046_00004C_10FB03_000046_000046_000049,
  0x10FB04_000046_000046_00004C_10FB05_000053_000054_10FB06_000053_000054_10FB13_000544_000546,
  0x10FB14_000544_000535_10FB15_000544_00053B_10FB16_00054E_000546_10FB17_000544_00053D,
  0x10FF41_20FF5A_00FF21_110428_21044F_010400_1104D8_2104FB_0104B0_110597_3105BB_010570,
  0x110598_3105A0_010571_1105A4_3105B0_01057D_1105B4_3105B8_01058D_1105BC_010595,
  0x110CC0_210CF2_010C80_1118C0_2118DF_0118A0_116E60_216E7F_016E40_11E922_21E943_01E900]

/-- Case foldings beyond ASCII that differ from the lowercase image, as mappings. -/
def caseFoldRows : List Nat := [
  0x1000B5_0003BC_1000DF_000073_000073_100149_0002BC_00006E_10017F_000073_1001F0_00006A_00030C,
  0x100345_0003B9_100390_0003B9_000308_000301_1003B0_0003C5_000308_000301_1003C2_0003C3,
  0x1003D0_0003B2_1003D1_0003B8_1003D5_0003C6_1003D6_0003C0_1003F0_0003BA_1003F1_0003C1,
  0x1003F5_0003B5_100587_000565_000582_1013A0_2013F5_0013A0_1013F8_2013FD_0013F0_101C80_000432,
  0x101C81_000434_101C82_00043E_101C83_201C84_000441_101C85_000442_101C86_00044A_101C87_000463,
  0x101C88_00A64B_101E96_000068_000331_101E97_000074_000308_101E98_000077_00030A,
  0x101E99_000079_00030A_101E9A_000061_0002BE_101E9B_001E61_101E9E_000073_000073,
  0x101F50_0003C5_000313_101F52_0003C5_000313_000300_101F54_0003C5_000313_000301,
  0x101F56_0003C5_000313_000342_101F80_001F00_0003B9_101F81_001F01_0003B9_101F82_001F02_0003B9,
  0x101F83_001F03_0003B9_101F84_001F04_0003B9_101F85_001F05_0003B9_101F86_001F06_0003B9,
  0x101F87_001F07_0003B9_101F88_001F00_0003B9_101F89_001F01_0003B9_101F8A_001F02_0003B9,
  0x101F8B_001F03_0003B9_101F8C_001F04_0003B9_101F8D_001F05_0003B9_101F8E_001F06_0003B9,
  0x101F8F_001F07_0003B9_101F90_001F20_0003B9_101F91_001F21_0003B9_101F92_001F22_0003B9,
  0x101F93_001F23_0003B9_101F94_001F24_0003B9_101F95_001F25_0003B9_101F96_001F26_0003B9,
  0x101F97_001F27_0003B9_101F98_001F20_0003B9_101F99_001F21_0003B9_101F9A_001F22_0003B9,
  0x101F9B_001F23_0003B9_101F9C_001F24_0003B9_101F9D_001F25_0003B9_101F9E_001F26_0003B9,
  0x101F9F_001F27_0003B9_101FA0_001F60_0003B9_101FA1_001F61_0003B9_101FA2_001F62_0003B9,
  0x101FA3_001F63_0003B9_101FA4_001F64_0003B9_101FA5_001F65_0003B9_101FA6_001F66_0003B9,
  0x101FA7_001F67_0003B9_101FA8_001F60_0003B9_101FA9_001F61_0003B9_101FAA_001F62_0003B9,
  0x101FAB_001F63_0003B9_101FAC_001F64_0003B9_101FAD_001F65_0003B9_101FAE_001F66_0003B9,
  0x101FAF_001F67_0003B9_101FB2_001F70_0003B9_101FB3_0003B1_0003B9_101FB4_0003AC_0003B9,
  0x101FB6_0003B1_000342_101FB7_0003B1_000342_0003B9_101FBC_0003B1_0003B9_101FBE_0003B9,
  0x101FC2_001F74_0003B9_101FC3_0003B7_0003B9_101FC4_0003AE_0003B9_101FC6_0003B7_000342,
  0x101FC7_0003B7_000342_0003B9_101FCC_0003B7_0003B9_101FD2_0003B9_000308_000300,
  0x101FD3_0003B9_000308_000301_101FD6_0003B9_000342_101FD7_0003B9_000308_000342,
  0x101FE2_0003C5_000308_000300_101FE3_0003C5_000308_000301_101FE4_0003C1_000313,
  0x101FE6_0003C5_000342_101FE7_0003C5_000308_000342_101FF2_001F7C_0003B9_101FF3_0003C9_0003B9,
  0x101FF4_0003CE_0003B9_101FF6_0003C9_000342_101FF7_0003C9_000342_0003B9_101FFC_0003C9_0003B9,
  0x10AB70_20ABBF_0013A0_10FB00_000066_000066_10FB01_000066_000069_10FB02_000066_00006C,
  0x10FB03_000066_000066_000069_10FB04_000066_000066_00006C_10FB05_000073_000074,
  0x10FB06_000073_000074_10FB13_000574_000576_10FB14_000574_000565_10FB15_000574_00056B,
  0x10FB16_00057E_000576_10FB17_000574_00056D]

end FieldOrder.Text
