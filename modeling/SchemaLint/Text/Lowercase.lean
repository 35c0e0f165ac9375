import SchemaLint.Text.Runs

/-! Lower case in all scripts. Characters have their lower case one by one, with two exceptions: the
dotted capital I becomes two characters, and the capital sigma becomes a final sigma at the end of a
word.
-/
namespace SchemaLint.Text

/-- Capitals from `first` to `last`, each `step` behind the one before; the lower case of the first
is `lower`, and the others keep their distance from theirs. -/
structure CapitalRun where
  first : Nat
  last : Nat
  step : Nat
  lower : Nat
  deriving Repr

def capitalRuns : List CapitalRun :=
  [⟨0x0041,0x005A,1,0x0061⟩,⟨0x00C0,0x00D6,1,0x00E0⟩,⟨0x00D8,0x00DE,1,0x00F8⟩,
    ⟨0x0100,0x012E,2,0x0101⟩,⟨0x0132,0x0136,2,0x0133⟩,⟨0x0139,0x0147,2,0x013A⟩,
    ⟨0x014A,0x0176,2,0x014B⟩,⟨0x0178,0x0178,1,0x00FF⟩,⟨0x0179,0x017D,2,0x017A⟩,
    ⟨0x0181,0x0181,1,0x0253⟩,⟨0x0182,0x0184,2,0x0183⟩,⟨0x0186,0x0186,1,0x0254⟩,
    ⟨0x0187,0x0187,1,0x0188⟩,⟨0x0189,0x018A,1,0x0256⟩,⟨0x018B,0x018B,1,0x018C⟩,
    ⟨0x018E,0x018E,1,0x01DD⟩,⟨0x018F,0x018F,1,0x0259⟩,⟨0x0190,0x0190,1,0x025B⟩,
    ⟨0x0191,0x0191,1,0x0192⟩,⟨0x0193,0x0193,1,0x0260⟩,⟨0x0194,0x0194,1,0x0263⟩,
    ⟨0x0196,0x0196,1,0x0269⟩,⟨0x0197,0x0197,1,0x0268⟩,⟨0x0198,0x0198,1,0x0199⟩,
    ⟨0x019C,0x019C,1,0x026F⟩,⟨0x019D,0x019D,1,0x0272⟩,⟨0x019F,0x019F,1,0x0275⟩,
    ⟨0x01A0,0x01A4,2,0x01A1⟩,⟨0x01A6,0x01A6,1,0x0280⟩,⟨0x01A7,0x01A7,1,0x01A8⟩,
    ⟨0x01A9,0x01A9,1,0x0283⟩,⟨0x01AC,0x01AC,1,0x01AD⟩,⟨0x01AE,0x01AE,1,0x0288⟩,
    ⟨0x01AF,0x01AF,1,0x01B0⟩,⟨0x01B1,0x01B2,1,0x028A⟩,⟨0x01B3,0x01B5,2,0x01B4⟩,
    ⟨0x01B7,0x01B7,1,0x0292⟩,⟨0x01B8,0x01B8,1,0x01B9⟩,⟨0x01BC,0x01BC,1,0x01BD⟩,
    ⟨0x01C4,0x01C4,1,0x01C6⟩,⟨0x01C5,0x01C5,1,0x01C6⟩,⟨0x01C7,0x01C7,1,0x01C9⟩,
    ⟨0x01C8,0x01C8,1,0x01C9⟩,⟨0x01CA,0x01CA,1,0x01CC⟩,⟨0x01CB,0x01DB,2,0x01CC⟩,
    ⟨0x01DE,0x01EE,2,0x01DF⟩,⟨0x01F1,0x01F1,1,0x01F3⟩,⟨0x01F2,0x01F4,2,0x01F3⟩,
    ⟨0x01F6,0x01F6,1,0x0195⟩,⟨0x01F7,0x01F7,1,0x01BF⟩,⟨0x01F8,0x021E,2,0x01F9⟩,
    ⟨0x0220,0x0220,1,0x019E⟩,⟨0x0222,0x0232,2,0x0223⟩,⟨0x023A,0x023A,1,0x2C65⟩,
    ⟨0x023B,0x023B,1,0x023C⟩,⟨0x023D,0x023D,1,0x019A⟩,⟨0x023E,0x023E,1,0x2C66⟩,
    ⟨0x0241,0x0241,1,0x0242⟩,⟨0x0243,0x0243,1,0x0180⟩,⟨0x0244,0x0244,1,0x0289⟩,
    ⟨0x0245,0x0245,1,0x028C⟩,⟨0x0246,0x024E,2,0x0247⟩,⟨0x0370,0x0372,2,0x0371⟩,
    ⟨0x0376,0x0376,1,0x0377⟩,⟨0x037F,0x037F,1,0x03F3⟩,⟨0x0386,0x0386,1,0x03AC⟩,
    ⟨0x0388,0x038A,1,0x03AD⟩,⟨0x038C,0x038C,1,0x03CC⟩,⟨0x038E,0x038F,1,0x03CD⟩,
    ⟨0x0391,0x03A1,1,0x03B1⟩,⟨0x03A4,0x03AB,1,0x03C4⟩,⟨0x03CF,0x03CF,1,0x03D7⟩,
    ⟨0x03D8,0x03EE,2,0x03D9⟩,⟨0x03F4,0x03F4,1,0x03B8⟩,⟨0x03F7,0x03F7,1,0x03F8⟩,
    ⟨0x03F9,0x03F9,1,0x03F2⟩,⟨0x03FA,0x03FA,1,0x03FB⟩,⟨0x03FD,0x03FF,1,0x037B⟩,
    ⟨0x0400,0x040F,1,0x0450⟩,⟨0x0410,0x042F,1,0x0430⟩,⟨0x0460,0x0480,2,0x0461⟩,
    ⟨0x048A,0x04BE,2,0x048B⟩,⟨0x04C0,0x04C0,1,0x04CF⟩,⟨0x04C1,0x04CD,2,0x04C2⟩,
    ⟨0x04D0,0x052E,2,0x04D1⟩,⟨0x0531,0x0556,1,0x0561⟩,⟨0x10A0,0x10C5,1,0x2D00⟩,
    ⟨0x10C7,0x10C7,1,0x2D27⟩,⟨0x10CD,0x10CD,1,0x2D2D⟩,⟨0x13A0,0x13EF,1,0xAB70⟩,
    ⟨0x13F0,0x13F5,1,0x13F8⟩,⟨0x1C90,0x1CBA,1,0x10D0⟩,⟨0x1CBD,0x1CBF,1,0x10FD⟩,
    ⟨0x1E00,0x1E94,2,0x1E01⟩,⟨0x1E9E,0x1E9E,1,0x00DF⟩,⟨0x1EA0,0x1EFE,2,0x1EA1⟩,
    ⟨0x1F08,0x1F0F,1,0x1F00⟩,⟨0x1F18,0x1F1D,1,0x1F10⟩,⟨0x1F28,0x1F2F,1,0x1F20⟩,
    ⟨0x1F38,0x1F3F,1,0x1F30⟩,⟨0x1F48,0x1F4D,1,0x1F40⟩,⟨0x1F59,0x1F5F,2,0x1F51⟩,
    ⟨0x1F68,0x1F6F,1,0x1F60⟩,⟨0x1F88,0x1F8F,1,0x1F80⟩,⟨0x1F98,0x1F9F,1,0x1F90⟩,
    ⟨0x1FA8,0x1FAF,1,0x1FA0⟩,⟨0x1FB8,0x1FB9,1,0x1FB0⟩,⟨0x1FBA,0x1FBB,1,0x1F70⟩,
    ⟨0x1FBC,0x1FBC,1,0x1FB3⟩,⟨0x1FC8,0x1FCB,1,0x1F72⟩,⟨0x1FCC,0x1FCC,1,0x1FC3⟩,
    ⟨0x1FD8,0x1FD9,1,0x1FD0⟩,⟨0x1FDA,0x1FDB,1,0x1F76⟩,⟨0x1FE8,0x1FE9,1,0x1FE0⟩,
    ⟨0x1FEA,0x1FEB,1,0x1F7A⟩,⟨0x1FEC,0x1FEC,1,0x1FE5⟩,⟨0x1FF8,0x1FF9,1,0x1F78⟩,
    ⟨0x1FFA,0x1FFB,1,0x1F7C⟩,⟨0x1FFC,0x1FFC,1,0x1FF3⟩,⟨0x2126,0x2126,1,0x03C9⟩,
    ⟨0x212A,0x212A,1,0x006B⟩,⟨0x212B,0x212B,1,0x00E5⟩,⟨0x2132,0x2132,1,0x214E⟩,
    ⟨0x2160,0x216F,1,0x2170⟩,⟨0x2183,0x2183,1,0x2184⟩,⟨0x24B6,0x24CF,1,0x24D0⟩,
    ⟨0x2C00,0x2C2F,1,0x2C30⟩,⟨0x2C60,0x2C60,1,0x2C61⟩,⟨0x2C62,0x2C62,1,0x026B⟩,
    ⟨0x2C63,0x2C63,1,0x1D7D⟩,⟨0x2C64,0x2C64,1,0x027D⟩,⟨0x2C67,0x2C6B,2,0x2C68⟩,
    ⟨0x2C6D,0x2C6D,1,0x0251⟩,⟨0x2C6E,0x2C6E,1,0x0271⟩,⟨0x2C6F,0x2C6F,1,0x0250⟩,
    ⟨0x2C70,0x2C70,1,0x0252⟩,⟨0x2C72,0x2C72,1,0x2C73⟩,⟨0x2C75,0x2C75,1,0x2C76⟩,
    ⟨0x2C7E,0x2C7F,1,0x023F⟩,⟨0x2C80,0x2CE2,2,0x2C81⟩,⟨0x2CEB,0x2CED,2,0x2CEC⟩,
    ⟨0x2CF2,0x2CF2,1,0x2CF3⟩,⟨0xA640,0xA66C,2,0xA641⟩,⟨0xA680,0xA69A,2,0xA681⟩,
    ⟨0xA722,0xA72E,2,0xA723⟩,⟨0xA732,0xA76E,2,0xA733⟩,⟨0xA779,0xA77B,2,0xA77A⟩,
    ⟨0xA77D,0xA77D,1,0x1D79⟩,⟨0xA77E,0xA786,2,0xA77F⟩,⟨0xA78B,0xA78B,1,0xA78C⟩,
    ⟨0xA78D,0xA78D,1,0x0265⟩,⟨0xA790,0xA792,2,0xA791⟩,⟨0xA796,0xA7A8,2,0xA797⟩,
    ⟨0xA7AA,0xA7AA,1,0x0266⟩,⟨0xA7AB,0xA7AB,1,0x025C⟩,⟨0xA7AC,0xA7AC,1,0x0261⟩,
    ⟨0xA7AD,0xA7AD,1,0x026C⟩,⟨0xA7AE,0xA7AE,1,0x026A⟩,⟨0xA7B0,0xA7B0,1,0x029E⟩,
    ⟨0xA7B1,0xA7B1,1,0x0287⟩,⟨0xA7B2,0xA7B2,1,0x029D⟩,⟨0xA7B3,0xA7B3,1,0xAB53⟩,
    ⟨0xA7B4,0xA7C2,2,0xA7B5⟩,⟨0xA7C4,0xA7C4,1,0xA794⟩,⟨0xA7C5,0xA7C5,1,0x0282⟩,
    ⟨0xA7C6,0xA7C6,1,0x1D8E⟩,⟨0xA7C7,0xA7C9,2,0xA7C8⟩,⟨0xA7D0,0xA7D0,1,0xA7D1⟩,
    ⟨0xA7D6,0xA7D8,2,0xA7D7⟩,⟨0xA7F5,0xA7F5,1,0xA7F6⟩,⟨0xFF21,0xFF3A,1,0xFF41⟩,
    ⟨0x10400,0x10427,1,0x10428⟩,⟨0x104B0,0x104D3,1,0x104D8⟩,⟨0x10570,0x1057A,1,0x10597⟩,
    ⟨0x1057C,0x1058A,1,0x105A3⟩,⟨0x1058C,0x10592,1,0x105B3⟩,⟨0x10594,0x10595,1,0x105BB⟩,
    ⟨0x10C80,0x10CB2,1,0x10CC0⟩,⟨0x118A0,0x118BF,1,0x118C0⟩,⟨0x16E40,0x16E5F,1,0x16E60⟩,
    ⟨0x1E900,0x1E921,1,0x1E922⟩]

def CapitalRun.contains (run : CapitalRun) (c : Char) : Bool :=
  run.first ≤ c.toNat && c.toNat ≤ run.last && (c.toNat - run.first) % run.step = 0

/-- The lower case of a character by itself, where it is one character. -/
def lowerChar (c : Char) : Char :=
  match capitalRuns.find? (·.contains c) with
  | some run => Char.ofNat (run.lower + (c.toNat - run.first))
  | none => c

/-- Characters that have case, other than those that words are read across. -/
def casedRuns : List Nat :=
  [0x0041,0x005B,0x0061,0x007B,0x00AA,0x00AB,0x00B5,0x00B6,0x00BA,0x00BB,0x00C0,0x00D7,
    0x00D8,0x00F7,0x00F8,0x01BB,0x01BC,0x01C0,0x01C4,0x0294,0x0295,0x02B0,0x0370,0x0374,
    0x0376,0x0378,0x037B,0x037E,0x037F,0x0380,0x0386,0x0387,0x0388,0x038B,0x038C,0x038D,
    0x038E,0x03A2,0x03A3,0x03F6,0x03F7,0x0482,0x048A,0x0530,0x0531,0x0557,0x0560,0x0589,
    0x10A0,0x10C6,0x10C7,0x10C8,0x10CD,0x10CE,0x10D0,0x10FB,0x10FD,0x1100,0x13A0,0x13F6,
    0x13F8,0x13FE,0x1C80,0x1C89,0x1C90,0x1CBB,0x1CBD,0x1CC0,0x1D00,0x1D2C,0x1D6B,0x1D78,
    0x1D79,0x1D9B,0x1E00,0x1F16,0x1F18,0x1F1E,0x1F20,0x1F46,0x1F48,0x1F4E,0x1F50,0x1F58,
    0x1F59,0x1F5A,0x1F5B,0x1F5C,0x1F5D,0x1F5E,0x1F5F,0x1F7E,0x1F80,0x1FB5,0x1FB6,0x1FBD,
    0x1FBE,0x1FBF,0x1FC2,0x1FC5,0x1FC6,0x1FCD,0x1FD0,0x1FD4,0x1FD6,0x1FDC,0x1FE0,0x1FED,
    0x1FF2,0x1FF5,0x1FF6,0x1FFD,0x2102,0x2103,0x2107,0x2108,0x210A,0x2114,0x2115,0x2116,
    0x2119,0x211E,0x2124,0x2125,0x2126,0x2127,0x2128,0x2129,0x212A,0x212E,0x212F,0x2135,
    0x2139,0x213A,0x213C,0x2140,0x2145,0x214A,0x214E,0x214F,0x2160,0x2180,0x2183,0x2185,
    0x24B6,0x24EA,0x2C00,0x2C7C,0x2C7E,0x2CE5,0x2CEB,0x2CEF,0x2CF2,0x2CF4,0x2D00,0x2D26,
    0x2D27,0x2D28,0x2D2D,0x2D2E,0xA640,0xA66E,0xA680,0xA69C,0xA722,0xA770,0xA771,0xA788,
    0xA78B,0xA78F,0xA790,0xA7CB,0xA7D0,0xA7D2,0xA7D3,0xA7D4,0xA7D5,0xA7DA,0xA7F5,0xA7F7,
    0xA7FA,0xA7FB,0xAB30,0xAB5B,0xAB60,0xAB69,0xAB70,0xABC0,0xFB00,0xFB07,0xFB13,0xFB18,
    0xFF21,0xFF3B,0xFF41,0xFF5B,0x10400,0x10450,0x104B0,0x104D4,0x104D8,0x104FC,0x10570,
    0x1057B,0x1057C,0x1058B,0x1058C,0x10593,0x10594,0x10596,0x10597,0x105A2,0x105A3,
    0x105B2,0x105B3,0x105BA,0x105BB,0x105BD,0x10C80,0x10CB3,0x10CC0,0x10CF3,0x118A0,
    0x118E0,0x16E40,0x16E80,0x1D400,0x1D455,0x1D456,0x1D49D,0x1D49E,0x1D4A0,0x1D4A2,
    0x1D4A3,0x1D4A5,0x1D4A7,0x1D4A9,0x1D4AD,0x1D4AE,0x1D4BA,0x1D4BB,0x1D4BC,0x1D4BD,
    0x1D4C4,0x1D4C5,0x1D506,0x1D507,0x1D50B,0x1D50D,0x1D515,0x1D516,0x1D51D,0x1D51E,
    0x1D53A,0x1D53B,0x1D53F,0x1D540,0x1D545,0x1D546,0x1D547,0x1D54A,0x1D551,0x1D552,
    0x1D6A6,0x1D6A8,0x1D6C1,0x1D6C2,0x1D6DB,0x1D6DC,0x1D6FB,0x1D6FC,0x1D715,0x1D716,
    0x1D735,0x1D736,0x1D74F,0x1D750,0x1D76F,0x1D770,0x1D789,0x1D78A,0x1D7A9,0x1D7AA,
    0x1D7C3,0x1D7C4,0x1D7CC,0x1DF00,0x1DF0A,0x1DF0B,0x1DF1F,0x1E900,0x1E944,0x1F130,
    0x1F14A,0x1F150,0x1F16A,0x1F170,0x1F18A]

/-- Marks and modifiers: what stands beside a sigma is looked for across them. -/
def ignorableRuns : List Nat :=
  [0x0027,0x0028,0x002E,0x002F,0x003A,0x003B,0x005E,0x005F,0x0060,0x0061,0x00A8,0x00A9,
    0x00AD,0x00AE,0x00AF,0x00B0,0x00B4,0x00B5,0x00B7,0x00B9,0x02B0,0x0370,0x0374,0x0376,
    0x037A,0x037B,0x0384,0x0386,0x0387,0x0388,0x0483,0x048A,0x0559,0x055A,0x055F,0x0560,
    0x0591,0x05BE,0x05BF,0x05C0,0x05C1,0x05C3,0x05C4,0x05C6,0x05C7,0x05C8,0x05F4,0x05F5,
    0x0600,0x0606,0x0610,0x061B,0x061C,0x061D,0x0640,0x0641,0x064B,0x0660,0x0670,0x0671,
    0x06D6,0x06DE,0x06DF,0x06E9,0x06EA,0x06EE,0x070F,0x0710,0x0711,0x0712,0x0730,0x074B,
    0x07A6,0x07B1,0x07EB,0x07F6,0x07FA,0x07FB,0x07FD,0x07FE,0x0816,0x082E,0x0859,0x085C,
    0x0888,0x0889,0x0890,0x0892,0x0898,0x08A0,0x08C9,0x0903,0x093A,0x093B,0x093C,0x093D,
    0x0941,0x0949,0x094D,0x094E,0x0951,0x0958,0x0962,0x0964,0x0971,0x0972,0x0981,0x0982,
    0x09BC,0x09BD,0x09C1,0x09C5,0x09CD,0x09CE,0x09E2,0x09E4,0x09FE,0x09FF,0x0A01,0x0A03,
    0x0A3C,0x0A3D,0x0A41,0x0A43,0x0A47,0x0A49,0x0A4B,0x0A4E,0x0A51,0x0A52,0x0A70,0x0A72,
    0x0A75,0x0A76,0x0A81,0x0A83,0x0ABC,0x0ABD,0x0AC1,0x0AC6,0x0AC7,0x0AC9,0x0ACD,0x0ACE,
    0x0AE2,0x0AE4,0x0AFA,0x0B00,0x0B01,0x0B02,0x0B3C,0x0B3D,0x0B3F,0x0B40,0x0B41,0x0B45,
    0x0B4D,0x0B4E,0x0B55,0x0B57,0x0B62,0x0B64,0x0B82,0x0B83,0x0BC0,0x0BC1,0x0BCD,0x0BCE,
    0x0C00,0x0C01,0x0C04,0x0C05,0x0C3C,0x0C3D,0x0C3E,0x0C41,0x0C46,0x0C49,0x0C4A,0x0C4E,
    0x0C55,0x0C57,0x0C62,0x0C64,0x0C81,0x0C82,0x0CBC,0x0CBD,0x0CBF,0x0CC0,0x0CC6,0x0CC7,
    0x0CCC,0x0CCE,0x0CE2,0x0CE4,0x0D00,0x0D02,0x0D3B,0x0D3D,0x0D41,0x0D45,0x0D4D,0x0D4E,
    0x0D62,0x0D64,0x0D81,0x0D82,0x0DCA,0x0DCB,0x0DD2,0x0DD5,0x0DD6,0x0DD7,0x0E31,0x0E32,
    0x0E34,0x0E3B,0x0E46,0x0E4F,0x0EB1,0x0EB2,0x0EB4,0x0EBD,0x0EC6,0x0EC7,0x0EC8,0x0ECE,
    0x0F18,0x0F1A,0x0F35,0x0F36,0x0F37,0x0F38,0x0F39,0x0F3A,0x0F71,0x0F7F,0x0F80,0x0F85,
    0x0F86,0x0F88,0x0F8D,0x0F98,0x0F99,0x0FBD,0x0FC6,0x0FC7,0x102D,0x1031,0x1032,0x1038,
    0x1039,0x103B,0x103D,0x103F,0x1058,0x105A,0x105E,0x1061,0x1071,0x1075,0x1082,0x1083,
    0x1085,0x1087,0x108D,0x108E,0x109D,0x109E,0x10FC,0x10FD,0x135D,0x1360,0x1712,0x1715,
    0x1732,0x1734,0x1752,0x1754,0x1772,0x1774,0x17B4,0x17B6,0x17B7,0x17BE,0x17C6,0x17C7,
    0x17C9,0x17D4,0x17D7,0x17D8,0x17DD,0x17DE,0x180B,0x1810,0x1843,0x1844,0x1885,0x1887,
    0x18A9,0x18AA,0x1920,0x1923,0x1927,0x1929,0x1932,0x1933,0x1939,0x193C,0x1A17,0x1A19,
    0x1A1B,0x1A1C,0x1A56,0x1A57,0x1A58,0x1A5F,0x1A60,0x1A61,0x1A62,0x1A63,0x1A65,0x1A6D,
    0x1A73,0x1A7D,0x1A7F,0x1A80,0x1AA7,0x1AA8,0x1AB0,0x1ACF,0x1B00,0x1B04,0x1B34,0x1B35,
    0x1B36,0x1B3B,0x1B3C,0x1B3D,0x1B42,0x1B43,0x1B6B,0x1B74,0x1B80,0x1B82,0x1BA2,0x1BA6,
    0x1BA8,0x1BAA,0x1BAB,0x1BAE,0x1BE6,0x1BE7,0x1BE8,0x1BEA,0x1BED,0x1BEE,0x1BEF,0x1BF2,
    0x1C2C,0x1C34,0x1C36,0x1C38,0x1C78,0x1C7E,0x1CD0,0x1CD3,0x1CD4,0x1CE1,0x1CE2,0x1CE9,
    0x1CED,0x1CEE,0x1CF4,0x1CF5,0x1CF8,0x1CFA,0x1D2C,0x1D6B,0x1D78,0x1D79,0x1D9B,0x1E00,
    0x1FBD,0x1FBE,0x1FBF,0x1FC2,0x1FCD,0x1FD0,0x1FDD,0x1FE0,0x1FED,0x1FF0,0x1FFD,0x1FFF,
    0x200B,0x2010,0x2018,0x201A,0x2024,0x2025,0x2027,0x2028,0x202A,0x202F,0x2060,0x2065,
    0x2066,0x2070,0x2071,0x2072,0x207F,0x2080,0x2090,0x209D,0x20D0,0x20F1,0x2C7C,0x2C7E,
    0x2CEF,0x2CF2,0x2D6F,0x2D70,0x2D7F,0x2D80,0x2DE0,0x2E00,0x2E2F,0x2E30,0x3005,0x3006,
    0x302A,0x302E,0x3031,0x3036,0x303B,0x303C,0x3099,0x309F,0x30FC,0x30FF,0xA015,0xA016,
    0xA4F8,0xA4FE,0xA60C,0xA60D,0xA66F,0xA673,0xA674,0xA67E,0xA67F,0xA680,0xA69C,0xA6A0,
    0xA6F0,0xA6F2,0xA700,0xA722,0xA770,0xA771,0xA788,0xA78B,0xA7F2,0xA7F5,0xA7F8,0xA7FA,
    0xA802,0xA803,0xA806,0xA807,0xA80B,0xA80C,0xA825,0xA827,0xA82C,0xA82D,0xA8C4,0xA8C6,
    0xA8E0,0xA8F2,0xA8FF,0xA900,0xA926,0xA92E,0xA947,0xA952,0xA980,0xA983,0xA9B3,0xA9B4,
    0xA9B6,0xA9BA,0xA9BC,0xA9BE,0xA9CF,0xA9D0,0xA9E5,0xA9E7,0xAA29,0xAA2F,0xAA31,0xAA33,
    0xAA35,0xAA37,0xAA43,0xAA44,0xAA4C,0xAA4D,0xAA70,0xAA71,0xAA7C,0xAA7D,0xAAB0,0xAAB1,
    0xAAB2,0xAAB5,0xAAB7,0xAAB9,0xAABE,0xAAC0,0xAAC1,0xAAC2,0xAADD,0xAADE,0xAAEC,0xAAEE,
    0xAAF3,0xAAF5,0xAAF6,0xAAF7,0xAB5B,0xAB60,0xAB69,0xAB6C,0xABE5,0xABE6,0xABE8,0xABE9,
    0xABED,0xABEE,0xFB1E,0xFB1F,0xFBB2,0xFBC3,0xFE00,0xFE10,0xFE13,0xFE14,0xFE20,0xFE30,
    0xFE52,0xFE53,0xFE55,0xFE56,0xFEFF,0xFF00,0xFF07,0xFF08,0xFF0E,0xFF0F,0xFF1A,0xFF1B,
    0xFF3E,0xFF3F,0xFF40,0xFF41,0xFF70,0xFF71,0xFF9E,0xFFA0,0xFFE3,0xFFE4,0xFFF9,0xFFFC,
    0x101FD,0x101FE,0x102E0,0x102E1,0x10376,0x1037B,0x10780,0x10786,0x10787,0x107B1,
    0x107B2,0x107BB,0x10A01,0x10A04,0x10A05,0x10A07,0x10A0C,0x10A10,0x10A38,0x10A3B,
    0x10A3F,0x10A40,0x10AE5,0x10AE7,0x10D24,0x10D28,0x10EAB,0x10EAD,0x10F46,0x10F51,
    0x10F82,0x10F86,0x11001,0x11002,0x11038,0x11047,0x11070,0x11071,0x11073,0x11075,
    0x1107F,0x11082,0x110B3,0x110B7,0x110B9,0x110BB,0x110BD,0x110BE,0x110C2,0x110C3,
    0x110CD,0x110CE,0x11100,0x11103,0x11127,0x1112C,0x1112D,0x11135,0x11173,0x11174,
    0x11180,0x11182,0x111B6,0x111BF,0x111C9,0x111CD,0x111CF,0x111D0,0x1122F,0x11232,
    0x11234,0x11235,0x11236,0x11238,0x1123E,0x1123F,0x112DF,0x112E0,0x112E3,0x112EB,
    0x11300,0x11302,0x1133B,0x1133D,0x11340,0x11341,0x11366,0x1136D,0x11370,0x11375,
    0x11438,0x11440,0x11442,0x11445,0x11446,0x11447,0x1145E,0x1145F,0x114B3,0x114B9,
    0x114BA,0x114BB,0x114BF,0x114C1,0x114C2,0x114C4,0x115B2,0x115B6,0x115BC,0x115BE,
    0x115BF,0x115C1,0x115DC,0x115DE,0x11633,0x1163B,0x1163D,0x1163E,0x1163F,0x11641,
    0x116AB,0x116AC,0x116AD,0x116AE,0x116B0,0x116B6,0x116B7,0x116B8,0x1171D,0x11720,
    0x11722,0x11726,0x11727,0x1172C,0x1182F,0x11838,0x11839,0x1183B,0x1193B,0x1193D,
    0x1193E,0x1193F,0x11943,0x11944,0x119D4,0x119D8,0x119DA,0x119DC,0x119E0,0x119E1,
    0x11A01,0x11A0B,0x11A33,0x11A39,0x11A3B,0x11A3F,0x11A47,0x11A48,0x11A51,0x11A57,
    0x11A59,0x11A5C,0x11A8A,0x11A97,0x11A98,0x11A9A,0x11C30,0x11C37,0x11C38,0x11C3E,
    0x11C3F,0x11C40,0x11C92,0x11CA8,0x11CAA,0x11CB1,0x11CB2,0x11CB4,0x11CB5,0x11CB7,
    0x11D31,0x11D37,0x11D3A,0x11D3B,0x11D3C,0x11D3E,0x11D3F,0x11D46,0x11D47,0x11D48,
    0x11D90,0x11D92,0x11D95,0x11D96,0x11D97,0x11D98,0x11EF3,0x11EF5,0x13430,0x13439,
    0x16AF0,0x16AF5,0x16B30,0x16B37,0x16B40,0x16B44,0x16F4F,0x16F50,0x16F8F,0x16FA0,
    0x16FE0,0x16FE2,0x16FE3,0x16FE5,0x1AFF0,0x1AFF4,0x1AFF5,0x1AFFC,0x1AFFD,0x1AFFF,
    0x1BC9D,0x1BC9F,0x1BCA0,0x1BCA4,0x1CF00,0x1CF2E,0x1CF30,0x1CF47,0x1D167,0x1D16A,
    0x1D173,0x1D183,0x1D185,0x1D18C,0x1D1AA,0x1D1AE,0x1D242,0x1D245,0x1DA00,0x1DA37,
    0x1DA3B,0x1DA6D,0x1DA75,0x1DA76,0x1DA84,0x1DA85,0x1DA9B,0x1DAA0,0x1DAA1,0x1DAB0,
    0x1E000,0x1E007,0x1E008,0x1E019,0x1E01B,0x1E022,0x1E023,0x1E025,0x1E026,0x1E02B,
    0x1E130,0x1E13E,0x1E2AE,0x1E2AF,0x1E2EC,0x1E2F0,0x1E8D0,0x1E8D7,0x1E944,0x1E94C,
    0x1F3FB,0x1F400,0xE0001,0xE0002,0xE0020,0xE0080,0xE0100,0xE01F0]

def startsCased (text : Text) : Bool :=
  match text.dropWhile (inRuns ignorableRuns) with
  | [] => false
  | c :: _ => inRuns casedRuns c

/-- Lower case in front of which the given text, in reverse, stands. -/
def lowerBehind (before : Text) : Text → Text
  | [] => []
  | c :: rest =>
    let lower :=
      if c = 'Σ' then [if startsCased before && !startsCased rest then 'ς' else 'σ']
      else if c = 'İ' then ['i','\u0307']
      else [lowerChar c]
    lower ++ lowerBehind (c :: before) rest

def lower (text : Text) : Text :=
  lowerBehind [] text

end SchemaLint.Text
