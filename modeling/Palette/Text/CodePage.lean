import Palette.Text.HexDigit
import Palette.Text.Parts

/-!
# Code pages

A code page is a coding with one byte for each character.  The lower half of every page
is ASCII; the upper half is the page's own and may have bytes without a character.
-/

namespace Palette.Text

/-- A code page: its names, and its upper half as runs.  A run has its first byte, the
code point of that byte, and its length, all in base sixteen. -/
structure CodePage where
  names : List String
  upper : String
  deriving DecidableEq, Repr

/-- The known code pages. -/
def codePages : List CodePage :=
  [ ⟨["646", "ansi_x3.4_1968", "ansi_x3.4_1986", "ansi_x3_4_1968", "ascii", "cp367",
      "csascii", "ibm367", "iso646_us", "iso_646.irv_1991", "iso_ir_6", "us", "us_ascii"], ""⟩,
    ⟨["8859", "cp819", "csisolatin1", "ibm819", "iso8859", "iso8859_1", "iso_8859_1",
      "iso_8859_1_1987", "iso_ir_100", "l1", "latin", "latin1", "latin_1"], "80.80.80"⟩,
    ⟨["csisolatin2", "iso8859_2", "iso_8859_2", "iso_8859_2_1987", "iso_ir_101", "l2",
      "latin2"],
      "80.80.21 A1.104.1 A2.2D8.1 A3.141.1 A4.A4.1 A5.13D.1 A6.15A.1 A7.A7.2 A9.160.1 " ++
        "AA.15E.1 AB.164.1 AC.179.1 AD.AD.1 AE.17D.1 AF.17B.1 B0.B0.1 B1.105.1 B2.2DB.1 " ++
        "B3.142.1 B4.B4.1 B5.13E.1 B6.15B.1 B7.2C7.1 B8.B8.1 B9.161.1 BA.15F.1 BB.165.1 " ++
        "BC.17A.1 BD.2DD.1 BE.17E.1 BF.17C.1 C0.154.1 C1.C1.2 C3.102.1 C4.C4.1 C5.139.1 " ++
        "C6.106.1 C7.C7.1 C8.10C.1 C9.C9.1 CA.118.1 CB.CB.1 CC.11A.1 CD.CD.2 CF.10E.1 " ++
        "D0.110.1 D1.143.1 D2.147.1 D3.D3.2 D5.150.1 D6.D6.2 D8.158.1 D9.16E.1 DA.DA.1 " ++
        "DB.170.1 DC.DC.2 DE.162.1 DF.DF.1 E0.155.1 E1.E1.2 E3.103.1 E4.E4.1 E5.13A.1 " ++
        "E6.107.1 E7.E7.1 E8.10D.1 E9.E9.1 EA.119.1 EB.EB.1 EC.11B.1 ED.ED.2 EF.10F.1 " ++
        "F0.111.1 F1.144.1 F2.148.1 F3.F3.2 F5.151.1 F6.F6.2 F8.159.1 F9.16F.1 FA.FA.1 " ++
        "FB.171.1 FC.FC.2 FE.163.1 FF.2D9.1"⟩,
    ⟨["csisolatin3", "iso8859_3", "iso_8859_3", "iso_8859_3_1988", "iso_ir_109", "l3",
      "latin3"],
      "80.80.21 A1.126.1 A2.2D8.1 A3.A3.2 A6.124.1 A7.A7.2 A9.130.1 AA.15E.1 AB.11E.1 " ++
        "AC.134.1 AD.AD.1 AF.17B.1 B0.B0.1 B1.127.1 B2.B2.4 B6.125.1 B7.B7.2 B9.131.1 " ++
        "BA.15F.1 BB.11F.1 BC.135.1 BD.BD.1 BF.17C.1 C0.C0.3 C4.C4.1 C5.10A.1 C6.108.1 " ++
        "C7.C7.9 D1.D1.4 D5.120.1 D6.D6.2 D8.11C.1 D9.D9.4 DD.16C.1 DE.15C.1 DF.DF.4 E4.E4.1 " ++
        "E5.10B.1 E6.109.1 E7.E7.9 F1.F1.4 F5.121.1 F6.F6.2 F8.11D.1 F9.F9.4 FD.16D.1 " ++
        "FE.15D.1 FF.2D9.1"⟩,
    ⟨["csisolatin4", "iso8859_4", "iso_8859_4", "iso_8859_4_1988", "iso_ir_110", "l4",
      "latin4"],
      "80.80.21 A1.104.1 A2.138.1 A3.156.1 A4.A4.1 A5.128.1 A6.13B.1 A7.A7.2 A9.160.1 " ++
        "AA.112.1 AB.122.1 AC.166.1 AD.AD.1 AE.17D.1 AF.AF.2 B1.105.1 B2.2DB.1 B3.157.1 " ++
        "B4.B4.1 B5.129.1 B6.13C.1 B7.2C7.1 B8.B8.1 B9.161.1 BA.113.1 BB.123.1 BC.167.1 " ++
        "BD.14A.1 BE.17E.1 BF.14B.1 C0.100.1 C1.C1.6 C7.12E.1 C8.10C.1 C9.C9.1 CA.118.1 " ++
        "CB.CB.1 CC.116.1 CD.CD.2 CF.12A.1 D0.110.1 D1.145.1 D2.14C.1 D3.136.1 D4.D4.5 " ++
        "D9.172.1 DA.DA.3 DD.168.1 DE.16A.1 DF.DF.1 E0.101.1 E1.E1.6 E7.12F.1 E8.10D.1 " ++
        "E9.E9.1 EA.119.1 EB.EB.1 EC.117.1 ED.ED.2 EF.12B.1 F0.111.1 F1.146.1 F2.14D.1 " ++
        "F3.137.1 F4.F4.5 F9.173.1 FA.FA.3 FD.169.1 FE.16B.1 FF.2D9.1"⟩,
    ⟨["csisolatincyrillic", "cyrillic", "iso8859_5", "iso_8859_5", "iso_8859_5_1988",
      "iso_ir_144"],
      "80.80.21 A1.401.C AD.AD.1 AE.40E.42 F0.2116.1 F1.451.C FD.A7.1 FE.45E.2"⟩,
    ⟨["arabic", "asmo_708", "csisolatinarabic", "ecma_114", "iso8859_6", "iso_8859_6",
      "iso_8859_6_1987", "iso_ir_127"],
      "80.80.21 A4.A4.1 AC.60C.1 AD.AD.1 BB.61B.1 BF.61F.1 C1.621.1A E0.640.13"⟩,
    ⟨["csisolatingreek", "ecma_118", "elot_928", "greek", "greek8", "iso8859_7", "iso_8859_7",
      "iso_8859_7_1987", "iso_ir_126"],
      "80.80.21 A1.2018.2 A3.A3.1 A4.20AC.1 A5.20AF.1 A6.A6.4 AA.37A.1 AB.AB.3 AF.2015.1 " ++
        "B0.B0.4 B4.384.3 B7.B7.1 B8.388.3 BB.BB.1 BC.38C.1 BD.BD.1 BE.38E.14 D3.3A3.2C"⟩,
    ⟨["csisolatinhebrew", "hebrew", "iso8859_8", "iso_8859_8", "iso_8859_8_1988", "iso_ir_138"],
      "80.80.21 A2.A2.8 AA.D7.1 AB.AB.F BA.F7.1 BB.BB.4 DF.2017.1 E0.5D0.1B FD.200E.2"⟩,
    ⟨["csisolatin5", "iso8859_9", "iso_8859_9", "iso_8859_9_1989", "iso_ir_148", "l5",
      "latin5"],
      "80.80.50 D0.11E.1 D1.D1.C DD.130.1 DE.15E.1 DF.DF.11 F0.11F.1 F1.F1.C FD.131.1 " ++
        "FE.15F.1 FF.FF.1"⟩,
    ⟨["csisolatin6", "iso8859_10", "iso_8859_10", "iso_8859_10_1992", "iso_ir_157", "l6",
      "latin6"],
      "80.80.21 A1.104.1 A2.112.1 A3.122.1 A4.12A.1 A5.128.1 A6.136.1 A7.A7.1 A8.13B.1 " ++
        "A9.110.1 AA.160.1 AB.166.1 AC.17D.1 AD.AD.1 AE.16A.1 AF.14A.1 B0.B0.1 B1.105.1 " ++
        "B2.113.1 B3.123.1 B4.12B.1 B5.129.1 B6.137.1 B7.B7.1 B8.13C.1 B9.111.1 BA.161.1 " ++
        "BB.167.1 BC.17E.1 BD.2015.1 BE.16B.1 BF.14B.1 C0.100.1 C1.C1.6 C7.12E.1 C8.10C.1 " ++
        "C9.C9.1 CA.118.1 CB.CB.1 CC.116.1 CD.CD.4 D1.145.1 D2.14C.1 D3.D3.4 D7.168.1 D8.D8.1 " ++
        "D9.172.1 DA.DA.6 E0.101.1 E1.E1.6 E7.12F.1 E8.10D.1 E9.E9.1 EA.119.1 EB.EB.1 " ++
        "EC.117.1 ED.ED.4 F1.146.1 F2.14D.1 F3.F3.4 F7.169.1 F8.F8.1 F9.173.1 FA.FA.5 " ++
        "FF.138.1"⟩,
    ⟨["iso8859_11", "iso_8859_11", "iso_8859_11_2001", "thai"],
      "80.80.21 A1.E01.3A DF.E3F.1D"⟩,
    ⟨["iso8859_13", "iso_8859_13", "l7", "latin7"],
      "80.80.21 A1.201D.1 A2.A2.3 A5.201E.1 A6.A6.2 A8.D8.1 A9.A9.1 AA.156.1 AB.AB.4 " ++
        "AF.C6.1 B0.B0.4 B4.201C.1 B5.B5.3 B8.F8.1 B9.B9.1 BA.157.1 BB.BB.4 BF.E6.1 C0.104.1 " ++
        "C1.12E.1 C2.100.1 C3.106.1 C4.C4.2 C6.118.1 C7.112.1 C8.10C.1 C9.C9.1 CA.179.1 " ++
        "CB.116.1 CC.122.1 CD.136.1 CE.12A.1 CF.13B.1 D0.160.1 D1.143.1 D2.145.1 D3.D3.1 " ++
        "D4.14C.1 D5.D5.3 D8.172.1 D9.141.1 DA.15A.1 DB.16A.1 DC.DC.1 DD.17B.1 DE.17D.1 " ++
        "DF.DF.1 E0.105.1 E1.12F.1 E2.101.1 E3.107.1 E4.E4.2 E6.119.1 E7.113.1 E8.10D.1 " ++
        "E9.E9.1 EA.17A.1 EB.117.1 EC.123.1 ED.137.1 EE.12B.1 EF.13C.1 F0.161.1 F1.144.1 " ++
        "F2.146.1 F3.F3.1 F4.14D.1 F5.F5.3 F8.173.1 F9.142.1 FA.15B.1 FB.16B.1 FC.FC.1 " ++
        "FD.17C.1 FE.17E.1 FF.2019.1"⟩,
    ⟨["iso8859_14", "iso_8859_14", "iso_8859_14_1998", "iso_celtic", "iso_ir_199", "l8",
      "latin8"],
      "80.80.21 A1.1E02.2 A3.A3.1 A4.10A.2 A6.1E0A.1 A7.A7.1 A8.1E80.1 A9.A9.1 AA.1E82.1 " ++
        "AB.1E0B.1 AC.1EF2.1 AD.AD.2 AF.178.1 B0.1E1E.2 B2.120.2 B4.1E40.2 B6.B6.1 B7.1E56.1 " ++
        "B8.1E81.1 B9.1E57.1 BA.1E83.1 BB.1E60.1 BC.1EF3.1 BD.1E84.2 BF.1E61.1 C0.C0.10 " ++
        "D0.174.1 D1.D1.6 D7.1E6A.1 D8.D8.6 DE.176.1 DF.DF.11 F0.175.1 F1.F1.6 F7.1E6B.1 " ++
        "F8.F8.6 FE.177.1 FF.FF.1"⟩,
    ⟨["iso8859_15", "iso_8859_15", "l9", "latin9"],
      "80.80.24 A4.20AC.1 A5.A5.1 A6.160.1 A7.A7.1 A8.161.1 A9.A9.B B4.17D.1 B5.B5.3 " ++
        "B8.17E.1 B9.B9.3 BC.152.2 BE.178.1 BF.BF.41"⟩,
    ⟨["iso8859_16", "iso_8859_16", "iso_8859_16_2001", "iso_ir_226", "l10", "latin10"],
      "80.80.21 A1.104.2 A3.141.1 A4.20AC.1 A5.201E.1 A6.160.1 A7.A7.1 A8.161.1 A9.A9.1 " ++
        "AA.218.1 AB.AB.1 AC.179.1 AD.AD.1 AE.17A.2 B0.B0.2 B2.10C.1 B3.142.1 B4.17D.1 " ++
        "B5.201D.1 B6.B6.2 B8.17E.1 B9.10D.1 BA.219.1 BB.BB.1 BC.152.2 BE.178.1 BF.17C.1 " ++
        "C0.C0.3 C3.102.1 C4.C4.1 C5.106.1 C6.C6.A D0.110.1 D1.143.1 D2.D2.3 D5.150.1 D6.D6.1 " ++
        "D7.15A.1 D8.170.1 D9.D9.4 DD.118.1 DE.21A.1 DF.DF.4 E3.103.1 E4.E4.1 E5.107.1 " ++
        "E6.E6.A F0.111.1 F1.144.1 F2.F2.3 F5.151.1 F6.F6.1 F7.15B.1 F8.171.1 F9.F9.4 " ++
        "FD.119.1 FE.21B.1 FF.FF.1"⟩,
    ⟨["1250", "cp1250", "windows_1250"],
      "80.20AC.1 82.201A.1 84.201E.1 85.2026.1 86.2020.2 89.2030.1 8A.160.1 8B.2039.1 " ++
        "8C.15A.1 8D.164.1 8E.17D.1 8F.179.1 91.2018.2 93.201C.2 95.2022.1 96.2013.2 " ++
        "99.2122.1 9A.161.1 9B.203A.1 9C.15B.1 9D.165.1 9E.17E.1 9F.17A.1 A0.A0.1 A1.2C7.1 " ++
        "A2.2D8.1 A3.141.1 A4.A4.1 A5.104.1 A6.A6.4 AA.15E.1 AB.AB.4 AF.17B.1 B0.B0.2 " ++
        "B2.2DB.1 B3.142.1 B4.B4.5 B9.105.1 BA.15F.1 BB.BB.1 BC.13D.1 BD.2DD.1 BE.13E.1 " ++
        "BF.17C.1 C0.154.1 C1.C1.2 C3.102.1 C4.C4.1 C5.139.1 C6.106.1 C7.C7.1 C8.10C.1 " ++
        "C9.C9.1 CA.118.1 CB.CB.1 CC.11A.1 CD.CD.2 CF.10E.1 D0.110.1 D1.143.1 D2.147.1 " ++
        "D3.D3.2 D5.150.1 D6.D6.2 D8.158.1 D9.16E.1 DA.DA.1 DB.170.1 DC.DC.2 DE.162.1 DF.DF.1 " ++
        "E0.155.1 E1.E1.2 E3.103.1 E4.E4.1 E5.13A.1 E6.107.1 E7.E7.1 E8.10D.1 E9.E9.1 " ++
        "EA.119.1 EB.EB.1 EC.11B.1 ED.ED.2 EF.10F.1 F0.111.1 F1.144.1 F2.148.1 F3.F3.2 " ++
        "F5.151.1 F6.F6.2 F8.159.1 F9.16F.1 FA.FA.1 FB.171.1 FC.FC.2 FE.163.1 FF.2D9.1"⟩,
    ⟨["1251", "cp1251", "windows_1251"],
      "80.402.2 82.201A.1 83.453.1 84.201E.1 85.2026.1 86.2020.2 88.20AC.1 89.2030.1 " ++
        "8A.409.1 8B.2039.1 8C.40A.1 8D.40C.1 8E.40B.1 8F.40F.1 90.452.1 91.2018.2 93.201C.2 " ++
        "95.2022.1 96.2013.2 99.2122.1 9A.459.1 9B.203A.1 9C.45A.1 9D.45C.1 9E.45B.1 9F.45F.1 " ++
        "A0.A0.1 A1.40E.1 A2.45E.1 A3.408.1 A4.A4.1 A5.490.1 A6.A6.2 A8.401.1 A9.A9.1 " ++
        "AA.404.1 AB.AB.4 AF.407.1 B0.B0.2 B2.406.1 B3.456.1 B4.491.1 B5.B5.3 B8.451.1 " ++
        "B9.2116.1 BA.454.1 BB.BB.1 BC.458.1 BD.405.1 BE.455.1 BF.457.1 C0.410.40"⟩,
    ⟨["1252", "cp1252", "windows_1252"],
      "80.20AC.1 82.201A.1 83.192.1 84.201E.1 85.2026.1 86.2020.2 88.2C6.1 89.2030.1 " ++
        "8A.160.1 8B.2039.1 8C.152.1 8E.17D.1 91.2018.2 93.201C.2 95.2022.1 96.2013.2 " ++
        "98.2DC.1 99.2122.1 9A.161.1 9B.203A.1 9C.153.1 9E.17E.1 9F.178.1 A0.A0.60"⟩,
    ⟨["1253", "cp1253", "windows_1253"],
      "80.20AC.1 82.201A.1 83.192.1 84.201E.1 85.2026.1 86.2020.2 89.2030.1 8B.2039.1 " ++
        "91.2018.2 93.201C.2 95.2022.1 96.2013.2 99.2122.1 9B.203A.1 A0.A0.1 A1.385.2 A3.A3.7 " ++
        "AB.AB.4 AF.2015.1 B0.B0.4 B4.384.1 B5.B5.3 B8.388.3 BB.BB.1 BC.38C.1 BD.BD.1 " ++
        "BE.38E.14 D3.3A3.2C"⟩,
    ⟨["1254", "cp1254", "windows_1254"],
      "80.20AC.1 82.201A.1 83.192.1 84.201E.1 85.2026.1 86.2020.2 88.2C6.1 89.2030.1 " ++
        "8A.160.1 8B.2039.1 8C.152.1 91.2018.2 93.201C.2 95.2022.1 96.2013.2 98.2DC.1 " ++
        "99.2122.1 9A.161.1 9B.203A.1 9C.153.1 9F.178.1 A0.A0.30 D0.11E.1 D1.D1.C DD.130.1 " ++
        "DE.15E.1 DF.DF.11 F0.11F.1 F1.F1.C FD.131.1 FE.15F.1 FF.FF.1"⟩,
    ⟨["1255", "cp1255", "windows_1255"],
      "80.20AC.1 82.201A.1 83.192.1 84.201E.1 85.2026.1 86.2020.2 88.2C6.1 89.2030.1 " ++
        "8B.2039.1 91.2018.2 93.201C.2 95.2022.1 96.2013.2 98.2DC.1 99.2122.1 9B.203A.1 " ++
        "A0.A0.4 A4.20AA.1 A5.A5.5 AA.D7.1 AB.AB.F BA.F7.1 BB.BB.5 C0.5B0.A CB.5BB.9 D4.5F0.5 " ++
        "E0.5D0.1B FD.200E.2"⟩,
    ⟨["1256", "cp1256", "windows_1256"],
      "80.20AC.1 81.67E.1 82.201A.1 83.192.1 84.201E.1 85.2026.1 86.2020.2 88.2C6.1 " ++
        "89.2030.1 8A.679.1 8B.2039.1 8C.152.1 8D.686.1 8E.698.1 8F.688.1 90.6AF.1 91.2018.2 " ++
        "93.201C.2 95.2022.1 96.2013.2 98.6A9.1 99.2122.1 9A.691.1 9B.203A.1 9C.153.1 " ++
        "9D.200C.2 9F.6BA.1 A0.A0.1 A1.60C.1 A2.A2.8 AA.6BE.1 AB.AB.F BA.61B.1 BB.BB.4 " ++
        "BF.61F.1 C0.6C1.1 C1.621.16 D7.D7.1 D8.637.4 DC.640.4 E0.E0.1 E1.644.1 E2.E2.1 " ++
        "E3.645.4 E7.E7.5 EC.649.2 EE.EE.2 F0.64B.4 F4.F4.1 F5.64F.2 F7.F7.1 F8.651.1 F9.F9.1 " ++
        "FA.652.1 FB.FB.2 FD.200E.2 FF.6D2.1"⟩,
    ⟨["1257", "cp1257", "windows_1257"],
      "80.20AC.1 82.201A.1 84.201E.1 85.2026.1 86.2020.2 89.2030.1 8B.2039.1 8D.A8.1 " ++
        "8E.2C7.1 8F.B8.1 91.2018.2 93.201C.2 95.2022.1 96.2013.2 99.2122.1 9B.203A.1 9D.AF.1 " ++
        "9E.2DB.1 A0.A0.1 A2.A2.3 A6.A6.2 A8.D8.1 A9.A9.1 AA.156.1 AB.AB.4 AF.C6.1 B0.B0.8 " ++
        "B8.F8.1 B9.B9.1 BA.157.1 BB.BB.4 BF.E6.1 C0.104.1 C1.12E.1 C2.100.1 C3.106.1 C4.C4.2 " ++
        "C6.118.1 C7.112.1 C8.10C.1 C9.C9.1 CA.179.1 CB.116.1 CC.122.1 CD.136.1 CE.12A.1 " ++
        "CF.13B.1 D0.160.1 D1.143.1 D2.145.1 D3.D3.1 D4.14C.1 D5.D5.3 D8.172.1 D9.141.1 " ++
        "DA.15A.1 DB.16A.1 DC.DC.1 DD.17B.1 DE.17D.1 DF.DF.1 E0.105.1 E1.12F.1 E2.101.1 " ++
        "E3.107.1 E4.E4.2 E6.119.1 E7.113.1 E8.10D.1 E9.E9.1 EA.17A.1 EB.117.1 EC.123.1 " ++
        "ED.137.1 EE.12B.1 EF.13C.1 F0.161.1 F1.144.1 F2.146.1 F3.F3.1 F4.14D.1 F5.F5.3 " ++
        "F8.173.1 F9.142.1 FA.15B.1 FB.16B.1 FC.FC.1 FD.17C.1 FE.17E.1 FF.2D9.1"⟩,
    ⟨["1258", "cp1258", "windows_1258"],
      "80.20AC.1 82.201A.1 83.192.1 84.201E.1 85.2026.1 86.2020.2 88.2C6.1 89.2030.1 " ++
        "8B.2039.1 8C.152.1 91.2018.2 93.201C.2 95.2022.1 96.2013.2 98.2DC.1 99.2122.1 " ++
        "9B.203A.1 9C.153.1 9F.178.1 A0.A0.23 C3.102.1 C4.C4.8 CC.300.1 CD.CD.3 D0.110.1 " ++
        "D1.D1.1 D2.309.1 D3.D3.2 D5.1A0.1 D6.D6.7 DD.1AF.1 DE.303.1 DF.DF.4 E3.103.1 E4.E4.8 " ++
        "EC.301.1 ED.ED.3 F0.111.1 F1.F1.1 F2.323.1 F3.F3.2 F5.1A1.1 F6.F6.7 FD.1B0.1 " ++
        "FE.20AB.1 FF.FF.1"⟩,
    ⟨["866", "cp866", "csibm866", "ibm866"],
      "80.410.30 B0.2591.3 B3.2502.1 B4.2524.1 B5.2561.2 B7.2556.1 B8.2555.1 B9.2563.1 " ++
        "BA.2551.1 BB.2557.1 BC.255D.1 BD.255C.1 BE.255B.1 BF.2510.1 C0.2514.1 C1.2534.1 " ++
        "C2.252C.1 C3.251C.1 C4.2500.1 C5.253C.1 C6.255E.2 C8.255A.1 C9.2554.1 CA.2569.1 " ++
        "CB.2566.1 CC.2560.1 CD.2550.1 CE.256C.1 CF.2567.2 D1.2564.2 D3.2559.1 D4.2558.1 " ++
        "D5.2552.2 D7.256B.1 D8.256A.1 D9.2518.1 DA.250C.1 DB.2588.1 DC.2584.1 DD.258C.1 " ++
        "DE.2590.1 DF.2580.1 E0.440.10 F0.401.1 F1.451.1 F2.404.1 F3.454.1 F4.407.1 F5.457.1 " ++
        "F6.40E.1 F7.45E.1 F8.B0.1 F9.2219.1 FA.B7.1 FB.221A.1 FC.2116.1 FD.A4.1 FE.25A0.1 " ++
        "FF.A0.1"⟩,
    ⟨["cskoi8r", "koi8_r"],
      "80.2500.1 81.2502.1 82.250C.1 83.2510.1 84.2514.1 85.2518.1 86.251C.1 87.2524.1 " ++
        "88.252C.1 89.2534.1 8A.253C.1 8B.2580.1 8C.2584.1 8D.2588.1 8E.258C.1 8F.2590.4 " ++
        "93.2320.1 94.25A0.1 95.2219.2 97.2248.1 98.2264.2 9A.A0.1 9B.2321.1 9C.B0.1 9D.B2.1 " ++
        "9E.B7.1 9F.F7.1 A0.2550.3 A3.451.1 A4.2553.F B3.401.1 B4.2562.B BF.A9.1 C0.44E.1 " ++
        "C1.430.2 C3.446.1 C4.434.2 C6.444.1 C7.433.1 C8.445.1 C9.438.8 D1.44F.1 D2.440.4 " ++
        "D6.436.1 D7.432.1 D8.44C.1 D9.44B.1 DA.437.1 DB.448.1 DC.44D.1 DD.449.1 DE.447.1 " ++
        "DF.44A.1 E0.42E.1 E1.410.2 E3.426.1 E4.414.2 E6.424.1 E7.413.1 E8.425.1 E9.418.8 " ++
        "F1.42F.1 F2.420.4 F6.416.1 F7.412.1 F8.42C.1 F9.42B.1 FA.417.1 FB.428.1 FC.42D.1 " ++
        "FD.429.1 FE.427.1 FF.42A.1"⟩,
    ⟨["koi8_u"],
      "80.2500.1 81.2502.1 82.250C.1 83.2510.1 84.2514.1 85.2518.1 86.251C.1 87.2524.1 " ++
        "88.252C.1 89.2534.1 8A.253C.1 8B.2580.1 8C.2584.1 8D.2588.1 8E.258C.1 8F.2590.4 " ++
        "93.2320.1 94.25A0.1 95.2219.2 97.2248.1 98.2264.2 9A.A0.1 9B.2321.1 9C.B0.1 9D.B2.1 " ++
        "9E.B7.1 9F.F7.1 A0.2550.3 A3.451.1 A4.454.1 A5.2554.1 A6.456.2 A8.2557.5 AD.491.1 " ++
        "AE.255D.5 B3.401.1 B4.404.1 B5.2563.1 B6.406.2 B8.2566.5 BD.490.1 BE.256C.1 BF.A9.1 " ++
        "C0.44E.1 C1.430.2 C3.446.1 C4.434.2 C6.444.1 C7.433.1 C8.445.1 C9.438.8 D1.44F.1 " ++
        "D2.440.4 D6.436.1 D7.432.1 D8.44C.1 D9.44B.1 DA.437.1 DB.448.1 DC.44D.1 DD.449.1 " ++
        "DE.447.1 DF.44A.1 E0.42E.1 E1.410.2 E3.426.1 E4.414.2 E6.424.1 E7.413.1 E8.425.1 " ++
        "E9.418.8 F1.42F.1 F2.420.4 F6.416.1 F7.412.1 F8.42C.1 F9.42B.1 FA.417.1 FB.428.1 " ++
        "FC.42D.1 FD.429.1 FE.427.1 FF.42A.1"⟩]

/-- A name of a coding as code pages list it: in lower case, with one low line between
groups of letters, digits and points. -/
def codingName (name : List Char) : String :=
  let groups := (parts '_' (name.map fun character =>
    if character.isAlphanum || character == '.' then character.toLower else '_')).filter
      fun group => group ≠ []
  String.intercalate "_" (groups.map String.ofList)

/-- The code page of a name. -/
def CodePage.ofName? (name : List Char) : Option CodePage :=
  codePages.find? fun page => page.names.contains (codingName name)

/-- The character of a byte in a run of a page's upper half. -/
def characterInRun? (byte : Nat) (run : List Char) : Option Char :=
  match (parts '.' run).map hexValue with
  | [first, code, count] =>
    if first ≤ byte ∧ byte < first + count then some (Char.ofNat (code + (byte - first))) else none
  | _ => none

/-- The character of a byte, if the page has one. -/
def CodePage.character? (page : CodePage) (byte : UInt8) : Option Char :=
  if byte < 0x80 then some (Char.ofNat byte.toNat)
  else (parts ' ' page.upper.toList).findSome? (characterInRun? byte.toNat)

/-- The characters of bytes, if the page has one for each. -/
def CodePage.decode? (page : CodePage) (bytes : List UInt8) : Option (List Char) :=
  bytes.mapM page.character?

/-- The lower half of every page is ASCII. -/
theorem CodePage.character?_of_ascii (page : CodePage) {byte : UInt8} (hascii : byte < 0x80) :
    page.character? byte = some (Char.ofNat byte.toNat) := by
  simp [CodePage.character?, hascii]

end Palette.Text
