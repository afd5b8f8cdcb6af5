import BundleAtlas.Text.CharacterName.Letter
import BundleAtlas.Text.CharacterName.Pictograph
import BundleAtlas.Text.CharacterName.Sign

/-!
Characters by their names in Unicode 14. The tables hold the names of letters, signs and pictographs
of the blocks in common use and the formal names of control characters; ideographs and syllables
have names that follow from their code points.
-/

namespace BundleAtlas.Text

/-- Formal names and abbreviations of characters that have no other name or a long one. -/
def formalNames : List NameRun := [
    ⟨0x0, 0, "", ["NULL,NUL"]⟩,
    ⟨0x1, 0, "", ["START OF HEADING,SOH"]⟩,
    ⟨0x2, 0, "", ["START OF TEXT,STX"]⟩,
    ⟨0x3, 0, "", ["END OF TEXT,ETX"]⟩,
    ⟨0x4, 0, "", ["END OF TRANSMISSION,EOT"]⟩,
    ⟨0x5, 0, "", ["ENQUIRY,ENQ"]⟩,
    ⟨0x6, 0, "", ["ACKNOWLEDGE,ACK"]⟩,
    ⟨0x7, 0, "", ["ALERT,BEL"]⟩,
    ⟨0x8, 0, "", ["BACKSPACE,BS"]⟩,
    ⟨0x9, 0, "", ["CHARACTER TABULATION,HORIZONTAL TABULATION,HT,TAB"]⟩,
    ⟨0xa, 0, "", ["LINE FEED,NEW LINE,END OF LINE,LF,NL,EOL"]⟩,
    ⟨0xb, 0, "", ["LINE TABULATION,VERTICAL TABULATION,VT"]⟩,
    ⟨0xc, 0, "", ["FORM FEED,FF"]⟩,
    ⟨0xd, 0, "", ["CARRIAGE RETURN,CR"]⟩,
    ⟨0xe, 0, "", ["SHIFT OUT,LOCKING-SHIFT ONE,SO"]⟩,
    ⟨0xf, 0, "", ["SHIFT IN,LOCKING-SHIFT ZERO,SI"]⟩,
    ⟨0x10, 0, "", ["DATA LINK ESCAPE,DLE"]⟩,
    ⟨0x11, 0, "", ["DEVICE CONTROL ONE,DC1"]⟩,
    ⟨0x12, 0, "", ["DEVICE CONTROL TWO,DC2"]⟩,
    ⟨0x13, 0, "", ["DEVICE CONTROL THREE,DC3"]⟩,
    ⟨0x14, 0, "", ["DEVICE CONTROL FOUR,DC4"]⟩,
    ⟨0x15, 0, "", ["NEGATIVE ACKNOWLEDGE,NAK"]⟩,
    ⟨0x16, 0, "", ["SYNCHRONOUS IDLE,SYN"]⟩,
    ⟨0x17, 0, "", ["END OF TRANSMISSION BLOCK,ETB"]⟩,
    ⟨0x18, 0, "", ["CANCEL,CAN"]⟩,
    ⟨0x19, 0, "", ["END OF MEDIUM,EOM"]⟩,
    ⟨0x1a, 0, "", ["SUBSTITUTE,SUB"]⟩,
    ⟨0x1b, 0, "", ["ESCAPE,ESC"]⟩,
    ⟨0x1c, 0, "", ["INFORMATION SEPARATOR FOUR,FILE SEPARATOR,FS"]⟩,
    ⟨0x1d, 0, "", ["INFORMATION SEPARATOR THREE,GROUP SEPARATOR,GS"]⟩,
    ⟨0x1e, 0, "", ["INFORMATION SEPARATOR TWO,RECORD SEPARATOR,RS"]⟩,
    ⟨0x1f, 0, "", ["INFORMATION SEPARATOR ONE,UNIT SEPARATOR,US"]⟩,
    ⟨0x20, 0, "", ["SP"]⟩,
    ⟨0x7f, 0, "", ["DELETE,DEL"]⟩,
    ⟨0x80, 0, "", ["PADDING CHARACTER,PAD"]⟩,
    ⟨0x81, 0, "", ["HIGH OCTET PRESET,HOP"]⟩,
    ⟨0x82, 0, "", ["BREAK PERMITTED HERE,BPH"]⟩,
    ⟨0x83, 0, "", ["NO BREAK HERE,NBH"]⟩,
    ⟨0x84, 0, "", ["INDEX,IND"]⟩,
    ⟨0x85, 0, "", ["NEXT LINE,NEL"]⟩,
    ⟨0x86, 0, "", ["START OF SELECTED AREA,SSA"]⟩,
    ⟨0x87, 0, "", ["END OF SELECTED AREA,ESA"]⟩,
    ⟨0x88, 0, "", ["CHARACTER TABULATION SET,HORIZONTAL TABULATION SET,HTS"]⟩,
    ⟨0x89, 0, "", ["CHARACTER TABULATION WITH JUSTIFICATION,HORIZONTAL TABULATION WITH JUSTIFICATION,HTJ"]⟩,
    ⟨0x8a, 0, "", ["LINE TABULATION SET,VERTICAL TABULATION SET,VTS"]⟩,
    ⟨0x8b, 0, "", ["PARTIAL LINE FORWARD,PARTIAL LINE DOWN,PLD"]⟩,
    ⟨0x8c, 0, "", ["PARTIAL LINE BACKWARD,PARTIAL LINE UP,PLU"]⟩,
    ⟨0x8d, 0, "", ["REVERSE LINE FEED,REVERSE INDEX,RI"]⟩,
    ⟨0x8e, 0, "", ["SINGLE SHIFT TWO,SINGLE-SHIFT-2,SS2"]⟩,
    ⟨0x8f, 0, "", ["SINGLE SHIFT THREE,SINGLE-SHIFT-3,SS3"]⟩,
    ⟨0x90, 0, "", ["DEVICE CONTROL STRING,DCS"]⟩,
    ⟨0x91, 0, "", ["PRIVATE USE ONE,PRIVATE USE-1,PU1"]⟩,
    ⟨0x92, 0, "", ["PRIVATE USE TWO,PRIVATE USE-2,PU2"]⟩,
    ⟨0x93, 0, "", ["SET TRANSMIT STATE,STS"]⟩,
    ⟨0x94, 0, "", ["CANCEL CHARACTER,CCH"]⟩,
    ⟨0x95, 0, "", ["MESSAGE WAITING,MW"]⟩,
    ⟨0x96, 0, "", ["START OF GUARDED AREA,START OF PROTECTED AREA,SPA"]⟩,
    ⟨0x97, 0, "", ["END OF GUARDED AREA,END OF PROTECTED AREA,EPA"]⟩,
    ⟨0x98, 0, "", ["START OF STRING,SOS"]⟩,
    ⟨0x99, 0, "", ["SINGLE GRAPHIC CHARACTER INTRODUCER,SGC"]⟩,
    ⟨0x9a, 0, "", ["SINGLE CHARACTER INTRODUCER,SCI"]⟩,
    ⟨0x9b, 0, "", ["CONTROL SEQUENCE INTRODUCER,CSI"]⟩,
    ⟨0x9c, 0, "", ["STRING TERMINATOR,ST"]⟩,
    ⟨0x9d, 0, "", ["OPERATING SYSTEM COMMAND,OSC"]⟩,
    ⟨0x9e, 0, "", ["PRIVACY MESSAGE,PM"]⟩,
    ⟨0x9f, 0, "", ["APPLICATION PROGRAM COMMAND,APC"]⟩,
    ⟨0xa0, 0, "", ["NBSP"]⟩,
    ⟨0xad, 0, "", ["SHY"]⟩,
    ⟨0x34f, 0, "", ["CGJ"]⟩,
    ⟨0x200b, 0, "", ["ZWSP"]⟩,
    ⟨0x200c, 0, "", ["ZWNJ"]⟩,
    ⟨0x200d, 0, "", ["ZWJ"]⟩,
    ⟨0x200e, 0, "", ["LRM"]⟩,
    ⟨0x200f, 0, "", ["RLM"]⟩,
    ⟨0x202a, 0, "", ["LRE"]⟩,
    ⟨0x202b, 0, "", ["RLE"]⟩,
    ⟨0x202c, 0, "", ["PDF"]⟩,
    ⟨0x202d, 0, "", ["LRO"]⟩,
    ⟨0x202e, 0, "", ["RLO"]⟩,
    ⟨0x202f, 0, "", ["NNBSP"]⟩,
    ⟨0x205f, 0, "", ["MMSP"]⟩,
    ⟨0x2060, 0, "", ["WJ"]⟩,
    ⟨0x2066, 0, "", ["LRI"]⟩,
    ⟨0x2067, 0, "", ["RLI"]⟩,
    ⟨0x2068, 0, "", ["FSI"]⟩,
    ⟨0x2069, 0, "", ["PDI"]⟩,
    ⟨0x2118, 0, "", ["WEIERSTRASS ELLIPTIC FUNCTION"]⟩,
    ⟨0xfe0f, 0, "", ["VS16"]⟩,
    ⟨0xfeff, 0, "", ["BYTE ORDER MARK,BOM,ZWNBSP"]⟩]

/-- The code points of unified ideographs. -/
def unifiedIdeographs : List (Nat × Nat) :=
  [(0x3400, 0x4dbf), (0x4e00, 0x9fff), (0x20000, 0x2a6df), (0x2a700, 0x2b738), (0x2b740, 0x2b81d),
    (0x2b820, 0x2cea1), (0x2ceb0, 0x2ebe0), (0x30000, 0x3134a)]

/-- Further characters that are named by a kind and their code point. -/
def numberedNames : List (String × List (Nat × Nat)) :=
  [("CJK COMPATIBILITY IDEOGRAPH-", [(0xf900, 0xfa6d), (0xfa70, 0xfad9), (0x2f800, 0x2fa1d)]),
    ("KHITAN SMALL SCRIPT CHARACTER-", [(0x18b00, 0x18cd5)]),
    ("NUSHU CHARACTER-", [(0x1b170, 0x1b2fb)])]

/-- The value of a hexadecimal digit in capital letters. -/
def capitalHexDigit? (c : Char) : Option Nat :=
  if c.isDigit then some (c.toNat - '0'.toNat)
  else if 'A' ≤ c && c ≤ 'F' then some (c.toNat - 'A'.toNat + 10)
  else none

/-- The code point that four or five hexadecimal digits in capital letters write. -/
def writtenCodePoint? (digits : List Char) : Option Nat :=
  if digits.length = 4 ∨ digits.length = 5 then
    (digits.mapM capitalHexDigit?).map (·.foldl (fun n d => 16 * n + d) 0)
  else none

/-- The code point in a name of a kind of characters that are named by it. -/
def numberedCodePoint? (name : List Char) (kind : String) (ranges : List (Nat × Nat)) :
    Option Nat := do
  let digits ← kind.toList.isPrefixOf? name
  let n ← writtenCodePoint? digits
  if ranges.any fun (a, b) => a ≤ n && n ≤ b then some n else none

/-- The first sounds of syllables. -/
def firstSounds : List String :=
  ["G", "GG", "N", "D", "DD", "R", "M", "B", "BB", "S", "SS", "", "J", "JJ", "C", "K", "T", "P", "H"]

/-- The vowels of syllables. -/
def vowelSounds : List String :=
  ["A", "AE", "YA", "YAE", "EO", "E", "YEO", "YE", "O", "WA", "WAE", "OE", "YO", "U", "WEO", "WE",
    "WI", "YU", "EU", "YI", "I"]

/-- The last sounds of syllables. -/
def lastSounds : List String :=
  ["", "G", "GG", "GS", "N", "NJ", "NH", "D", "L", "LG", "LM", "LB", "LS", "LT", "LP", "LH", "M",
    "B", "BS", "S", "SS", "NG", "J", "C", "K", "T", "P", "H"]

/-- The sounds that some characters start with, each by its place in the list and with what
follows it. -/
def soundsAt (sounds : List String) (cs : List Char) : List (Nat × List Char) :=
  sounds.zipIdx.filterMap fun (sound, i) => (sound.toList.isPrefixOf? cs).map fun rest => (i, rest)

/-- The code point of a syllable by its sounds. -/
def syllable? (sounds : List Char) : Option Nat :=
  (soundsAt firstSounds sounds).findSome? fun (a, rest) =>
    (soundsAt vowelSounds rest).findSome? fun (b, rest) =>
      (lastSounds.idxOf? (String.ofList rest)).map fun c => 0xac00 + (a * 21 + b) * 28 + c

/-- The code point of the character with a name. Small and capital letters count as the same, except
in the names of unified ideographs and of syllables. -/
def characterNamed? (name : String) : Option Nat :=
  let cs := name.toList
  let capitals := cs.map Char.toUpper
  let syllable := do syllable? (← "HANGUL SYLLABLE ".toList.isPrefixOf? cs)
  syllable <|> numberedCodePoint? cs "CJK UNIFIED IDEOGRAPH-" unifiedIdeographs <|>
    (numberedNames.findSome? fun (kind, ranges) => numberedCodePoint? capitals kind ranges) <|>
    [letterNames, signNames, pictographNames, formalNames].findSome? fun runs =>
      runs.findSome? (·.codePoint? capitals)

end BundleAtlas.Text
