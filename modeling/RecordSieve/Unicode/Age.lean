import RecordSieve.Unicode.CodePointSet

/-!
# Ages

The version of the character database that introduced each code point, up to version 16.
-/

namespace RecordSieve.Unicode

/-- The ages of all code points as labelled runs; a hyphen is the label of what no version has
introduced. -/
def ageTable : String := String.join [
    "502A4D30A8D1F1G18D3G11H14I89A5D2G47A1D10A5D17G70A9D1F8G5H3G2A1D13F4J2A2J2-1A3I1A1P4-7A1-1A1-",
    "20A1-44A1J7A1D2F1A1D1A1D1A1D1A1D18A2E1F5G4H1D12A1D66A1D12A1D41A1J2D2F4D53A2F2A2F2A2F1I28A2D",
    "8A2H2A6I16F4I16J2K2L8P1-38A2-7A1T39A1T1A1D2-2P1M1-17B1H13B10A1I9A1B3H8-27A4-1T5A11-4G1M1P5J",
    "1H1A9G5J1A1O1X1H1A1L26A5J19A3D3G6H1L14A2F72A2D5A1D15A1D30A2G10A5D1G14D1-30D3G27D2-3G30H18J",
    "49D1F14-59I2-3T46K2-15K1-28L2-1L1-11S5-31X1-2X5-1a8X1M1P11M6P2Q1X8R10W11X1T15R1Q27M1P1K3A1G",
    "53A2L18A1K1L5A1K2L25A2J5L1P2K2I1H2I1P3A1-8A2-2A2-22A1-7A1-1A3-4A2-1A1G7A2-2A2-3A1H8-1A4-2A1-",
    "5A2-21A1K2S1T2-1G1A1G1-6A4-2A2-22A1-7A1-2A1-2A1-2A2-1A1-5A4-2A2-3A3-1J7-4A1-1A7-15A1J1T10-3A",
    "1-7A1G1A1-3A1-22A1-7A1-2A1-5A2-10A1-3A1-3A2-1A15-1A3G2-10A1M1G7-1Q6S1-3A1-8A2-2A2-22A1-7A1-",
    "2A1-1G4A2-8A1J2-2A2-3A7-1W2A4-2A1-3A2J2-11A1G6L10-2A1-6A3-3A1-4A3-2A1-1A1-2A3-2A3-3A3-8A1H3A",
    "4-5A3-3A1-4A2-1J6-1A14-1H12A8G5-1P3A1T8A1-3A1-23A1-10A1P5A2-1X1J7A1-3A1-4A7-2A1-2J1Q2-1X2-2A",
    "2J2-10A7-1U8J1R1P2A1T8A1-3A1-23A1-10A1-5A2-2G7A1-3A1-4A7-2A6-1X1A1-2A2I2-10A1-2I1Y12-1S1P2A",
    "1W8A1-3A1-23A1L16A1L2S1J6A1J1-3A1-4A1L1R4-3R1A7R1Q2A2J2-10A6J3R7J1-1W2D1-18D3-24D1-9D1-1D2-",
    "7D3-1D4-6D1-1D1-8D6-10P2-3D12-58A4-29A37-2A1-1A1-1U2A1U1A1-1U1A6U4A1U7A1U3A1-1A1-1A2U2A1U13A",
    "1U3A2-5A1-1A1-6A1Y1-10A2-2A2M32-72B1-33B1D2J4-27B4L6B1D1B1-21B3D7B1D1B3D1-15D1-1J1D2H3J4K2L",
    "37-34D1J5D1J2D1J7D3J4D6J26D64J4K2J38A1-1M5-1M2-39A2F2H1A1H3M90A5K68A5K82A6K7D1H63D1H1D1-4D2-",
    "7D1-1D1-4D2-39D1H1D1-4D2-31D1H1D1-4D2-7D1-1D1-4D2-7D1H7D1-23D1H31D1H1D1-4D2-7D1H39D1H19D2-2L",
    "2H28D3-26H6-85D1Q2-6Q2-1K630D9K29D3-81D8P7-13F1X7F1X9-1X23F9-20F12-13F1-3F1-2F12-93D1G2-10D",
    "6-10G6-15D1X10D6-88D1T7-42D1J5-70K10-29G2P1-12G4-12G4-1G3-42G2-5G11-42H2K4-26H6-10H1K3-2H32G",
    "28H2-2H63K1-29K2-11K6-10K6-14K2-15P2W14X49-76I1X1-2a45I2X1a43J3M12J6M52L8-4L56J3-15J3-51J9R",
    "2a5-43T2-3T8M8-35K4M1S2P1U5-108G88H7I28J15P4S1X1R1L1K2I155A1B4J90A6J22A2-6A2-38A2-6A2-8A1-1A",
    "1-1A1-1A1-31A2-53A1-15A1-14A2-6A1-19A2-3A1-9A1-47A1D23A1F6D5F2G2H1F7H5F1J1-4O7A1F2-27A1-5H8L",
    "3-11A1B1C3D2F4H3K1L1N3P1Q1S1X15-18A2D7F1H4I1J15-57A2D1G1H15F1H2I1J3K48A1D1I4J1K2Q4-91A9D12F",
    "242A14F1A1D121A1D1F30D52F2G11H12I1K11L7P4R1S37A2D3a22-11A21-139A20F1G150A10F80A8D8F20A2G2F1H",
    "1D86A2D12F2H10F8G11H1J2K2G16H1I10J3K4J10K1L19K1L1K4L24K1P4A1L4A2L28A1L35A1L1A1L4A3L1A1K7A2L",
    "7A14F31A3L24A1L14A1L7H4I1M1J1M2L28F4J16F256D512F14G6H7I5J4I41J3P5J5K26P2-32P1-1W34P3T12P1U8P",
    "1S25T4Q15T1U47H1X47H1X13I3J1K3J4I6J2K107H7K2M5-45H1-1M5-1M2-54H2M7-1H1L14-1L23H9-7H1-7H1-7H",
    "1-7H1-7H1-7H1-7H1-7H1-32J24H4J2H19J1K10M7P2R5S5T1U3W11X34-26D1-89D12-214D26-12D4Z56A3D3F1D1A",
    "1-84A2F2-6A2F94A1F5-40A1J1S1T1-94A1-16A24D3L5W16H20J2a9-1Z16F29A2G1-36A12K1G15F28A2G1H50A15F",
    "12A4G47A1V119A4G99A2G31A1G6582D10W64G20902A22H8J8K1M9Q21S5T13W3X1165D3-18D2F16D1F12D1F3D1F1D",
    "9-48K300J20-32J2L18J8M28J6P1Q1M88K8-23H4I5J2I107J2L1Q2L2M12P10L1M3P1R1T2P6Q2T6U2X5U4W3a2-2X",
    "1-1X1-5X3a21-3X2W1P2M1L5J44H1W3-10K6-56I8-69J1R8-12J6-28K2Q2T84J11-1J29K3-78K1-11K4-2K31P1-",
    "55J9-14J2-10J2-4J28K4P67K24-5K23M10-6L2-6L2-6L9-7L1-7L1-48P4Q2P2U4W4-80Q46K2-10K6-11172B12-",
    "23K4-49K2052-6702A2M59F3K2-106H38-7A12-5A5-1D25A1-5A1-1A1-2A1-2A1-108A16L1X16-365A16X64A2-",
    "54A7-1X32E12A1F1G2X16F10H6-4A3J7P2Q21A2F2G10A1-19A1-4A4-3A1F1A1-135A2-1A1-94A2F94A3-6A2-6A2-",
    "6A2-3A3-7A1-7A10-3D1C3A12G1-26G1-19G1-2G1-15G2-14G34-123G5-3G4-45G3-9G75H2P2R1-12J1W3-1P47-",
    "46J130-29J3-49J15-28P4-31E1P4E9-3S27E5-43P5-30G1-1G36H4-14H42-38E2G38E80G2-10G6-36R4-36R4-",
    "40P8-52P11-1P11X1-15X1-7X1-2X1-11X1-15X1-7X1-2X3-52a12-311P9-22P10-8P24-6X1-42X1-9X69-6G2-1G",
    "1-44G1-2G3-1G2-1G22K1-9K63P8-9P48-19Q1-2Q5-5Q26I2K3-1I26J5-1J64-56M4-2Q2M16Q2-46Q4H1-2H5-8H",
    "1-3H1-27H2T2-3H4-9H1T7-9H7-32K32P32-39P4-12P9-54K3-29K2-27K5-8K18P7-4P12-7P80-73K55-51Q13-",
    "51Q7-6Q40T8-10T6-38a3-29a8-2a208-31K1-42W1-3W2-2W16-3a55-1a3Y40T8-42T22-26X38-28W20-23U9-78L",
    "4-30L6X9-1P66K1X10-1T2-25M7-10M6-53M1-14M3T1W8-39P9-73M4Q1P2W10M1P5Q1-20P11-18P1-43P1R3Y62-",
    "7Q1-1Q1-4Q1-15Q1-11Q6-59P5-10P6-1Q3P1-8P2-2P2-22P1-7P1-2P1-5P1-1T9P2-2P2-3P2-1Q6-1P5-7P2-7P",
    "3-5P11-10a1-1a2-1a1-38a1-10a1-1a2-1a1-4a1-10a1-2a8-2a29-90R1W1R1-1R1T1U2W30-72P8-10P166-54P",
    "2-18P20Q34-69P11-10P6-13R19-56M1U1X6-10M6-20a28-26Q1T2-15Q4-16Q7X185-60T100-83P12-1P7W2-1W2-",
    "8W1-2W1-30W1-2W2-12W9-10W70-8U2-46U2-11U27-72S8-52S2U23S1T5S13-16X57P7-10Y182-34a14-10a6-9R",
    "1-45R1-14R10-29R3-32R2-22R1-14R73-7S1-2S1-44S3-1S1-2S1-9S8-10S6-6T1-2T1-37T1-2T1-6T7-10T310-",
    "25T7-17Y1-41Y3-28Y1a85-1W15-50U13-1U879I42P1Q102-99I12P1-4I1P11-196Q2636-99X13-1071K1Y9U29Y",
    "10-3995a5-583Q6841-58a1734-569L7-31P1-10P4-2P79X1-10X6-30P2-6P10-70P10-10P1-7P1-21P5-19P432-",
    "58a198-91T101-69M6U4-1U47M9U7-17M64-1R1S2U1W11-2W14-6125R5T6U8-755R483W41-1a9W8935-4X1-7X1-",
    "2X1-2L285S4X15-1Y29-3U2-1Y14-4U8-396S2308-107P5-13P3-9P7-10P2-8P3932-250a6-436a76-46X2-23X9-",
    "116X60-246E10-39E2-1J180E11Q2X21-70H122-20Y12-20T12-87G9-18I7T135-85E1-71E1-2E2-1E2-2E2-4E1-",
    "12E1-1E1-4E1G2E1-65E1-4E2-8E1-7E1-28E1-4E1-5E1-1E3-7E1-338E2H2-290E2I2-50E652Q15-5Q1-15Q",
    "1104-31X6-6Y213-7R1-17R2-7R1-2R1-5R5-62Y33-1Y112-45U3-14U2-10U4-2U320-31X17-58U5-1U464-42Y",
    "214-43a4-1a480-7X1-4X1-2X1-15X1-197P2-16P41-75R1U4-10R4-2R785-68T76-61U194-4M1-27M1-2M1-1M2-",
    "1M1-10M1-4M1-1M1-1M6-1M4-1M1-1M1-1M1-3M1-2M1-1M2-1M1-1M1-1M1-1M1-1M1-2M1-1M2-4M1-7M1-4M1-4M",
    "1-1M1-10M1-17M5-3M1-5M1-17M52-2M270-44J4-100J12-15L2-14L1P1-15L1-15L22P10-11K2P3W31K1T1L1K",
    "11L1K1L1K2L1K3L1K3L5K8L1K7L1K10L2M1U3W9L1K1L2K2L1K10L4K2L1K10L18R1W56-26L1K2L13-34K9L1R4-9K",
    "7-2L14-6S154-33L12P3Q6L1P70L1P2Q20L12P37L1P5L4P5Q12P17L7P8Q63L1P1L1P182L1P4L2P1Q62L2P4M7P5Q",
    "24L18P1R41P1R86P5L1M16L1M3L1M1L1M1L1M1L1M3L1M6L2M4L1M1L2M4L1M12L2P2Q11L48P70L10P1Q2R2S1U2W4-",
    "1Y3X13P3-4P3R2S1T1U2W3-116L3Y4-5Y85P4T1Y6-12U4-1X15-12P4-56P8-10P6-40P8-30P2-2W10a4-2a62-12S",
    "1W3U9Q6R1S8R8S1R2S12R1U12R1S3T15R13S5T1U1W4T2W1X1T1U4T5Q13R6S11T2W6U3W2U10T6U1Q2T8U1W1X3U23S",
    "25T84U12-14T2-4U1W3Y3U2X3-3U4W2Y1a5-1a6U19W4X3Y7W4X3Y1a1Y3W3X1a7-2Y7W3X2Y1a2-1a8X1Y1a6-7X2Y",
    "7-147W1-55W37a10W1028-2B42711E7W2X32-4149K4X1Y6-222L2-5762Q14-7473S15-622Z2466-542E1504-2B",
    "4939W5-4192Y56398-2B65534-2B65534-2B65534-2B65534-2B65534-2B65534-2B65534-2B65534-2B65534-2B",
    "65534-2B1-1E30-96E128-240G65038-131074B"]

/-- The versions by their names, from the oldest to the newest, with the label that the table
has for each. -/
def versionNames : List (List String × String) := [
    (["1.1", "v11"], "A"), (["2.0", "v20"], "B"), (["2.1", "v21"], "C"), (["3.0", "v30"],
    "D"), (["3.1", "v31"], "E"), (["3.2", "v32"], "F"), (["4.0", "v40"], "G"), (["4.1",
    "v41"], "H"), (["5.0", "v50"], "I"), (["5.1", "v51"], "J"), (["5.2", "v52"], "K"),
    (["6.0", "v60"], "L"), (["6.1", "v61"], "M"), (["6.2", "v62"], "N"), (["6.3", "v63"],
    "O"), (["7.0", "v70"], "P"), (["8.0", "v80"], "Q"), (["9.0", "v90"], "R"), (["10.0",
    "v100"], "S"), (["11.0", "v110"], "T"), (["12.0", "v120"], "U"), (["12.1", "v121"], "V"),
    (["13.0", "v130"], "W"), (["14.0", "v140"], "X"), (["15.0", "v150"], "Y"), (["15.1",
    "v151"], "Z"), (["16.0", "v160"], "a")]

/-- The labels of a version and all older ones, by the name of the version. -/
def versionsUpTo? (name : String) : Option (List String) :=
  (byName? versionNames name).map fun label =>
    label :: ((versionNames.map (·.2)).takeWhile (· ≠ label))

/-- The characters that a version has, by its name: those that it introduced and those of all
older versions. -/
def age? (name : String) : Option CodePointSet :=
  (versionsUpTo? name).map fun labels => labelled (partition ageTable) labels.contains

end RecordSieve.Unicode
