import Kindred.Text.Ranges

/-!
# Width on a terminal

How many columns a text takes. Ideographs and most emoji take two, marks that combine with the
character before them take none, and other characters take one. Some sequences are drawn as one sign
and take less than their characters do: emoji with a modifier, emoji that are joined, and ligatures
of several scripts. A variation selector makes an emoji of a character, or text of an emoji.

A text is measured from its end to its start: what a character takes hangs on what stands behind it
(`Tail`), and `Tail.before` says how.
-/

namespace Kindred

namespace Text

namespace Width

/-! ## Classes of characters -/

/-- Characters that take two columns. -/
def wide : Ranges := .ofTable [
  "1100-115F 2329-232A 2630-2637 268A-268F 2E80-2E99 2E9B-2EF3 2F00-2FD5 2FF0-303E",
  "3041-3096 3099-30FF 3105-312F 3131-318E 3190-31E5 31EF-321E 3220-3247 3250-A48C",
  "A490-A4C6 A960-A97C AC00-D7A3 F900-FAFF FE10-FE19 FE30-FE52 FE54-FE66 FE68-FE6B",
  "FF01-FF60 FFE0-FFE6 16FE0-16FE4 16FF0-16FF6 17000-18CD5 18CFF-18D1E 18D80-18DF2",
  "1AFF0-1AFF3 1AFF5-1AFFB 1AFFD-1AFFE 1B000-1B122 1B132 1B150-1B152 1B155 1B164-1B167",
  "1B170-1B2FB 1D300-1D356 1D360-1D376 1F200 1F202 1F210-1F219 1F21B-1F22E 1F230-1F231",
  "1F237 1F23B 1F240-1F248 1F260-1F265 20000-2FFFD 30000-3FFFD"]

/-- Characters that take no column: marks on other characters and invisible ones. -/
def widthless : Ranges := .ofTable [
  "AD 300-36F 483-489 591-5BD 5BF 5C1-5C2 5C4-5C5 5C7 605 610-61A 61C 64B-65F 670 6D6-6DC",
  "6DF-6E4 6E7-6E8 6EA-6ED 70F 711 730-74A 7A6-7B0 7EB-7F3 7FD 816-819 81B-823 825-827",
  "829-82D 859-85B 890-891 897-89F 8CA-902 93A 93C 941-948 94D 951-957 962-963 981 9BC 9BE",
  "9C1-9C4 9CD 9D7 9E2-9E3 9FE A01-A02 A3C A41-A42 A47-A48 A4B-A4D A51 A70-A71 A75 A81-A82",
  "ABC AC1-AC5 AC7-AC8 ACD AE2-AE3 AFA-AFF B01 B3C B3E-B3F B41-B44 B4D B55-B57 B62-B63 B82",
  "BBE BC0 BCD BD7 C00 C04 C3C C3E-C40 C46-C48 C4A-C4D C55-C56 C62-C63 C81 CBC CBF-CC0 CC2",
  "CC6-CC8 CCA-CCD CD5-CD6 CE2-CE3 D00-D01 D3B-D3C D3E D41-D44 D4D-D4E D57 D62-D63 D81 DCA",
  "DCF DD2-DD4 DD6 DDF E31 E34-E3A E47-E4E EB1 EB4-EBC EC8-ECE F18-F19 F35 F37 F39 F71-F7E",
  "F80-F84 F86-F87 F8D-F97 F99-FBC FC6 102D-1030 1032-1037 1039-103A 103D-103E 1058-1059",
  "105E-1060 1071-1074 1082 1085-1086 108D 109D 1160-11FF 135D-135F 1712-1715 1732-1734",
  "1752-1753 1772-1773 17B4-17B5 17B7-17BD 17C6 17C9-17D3 17DD 180B-180F 1885-1886 18A9",
  "1920-1922 1927-1928 1932 1939-193B 1A17-1A18 1A1B 1A56 1A58-1A5E 1A60 1A62 1A65-1A6C",
  "1A73-1A7C 1A7F 1AB0-1ADD 1AE0-1AEB 1B00-1B03 1B34-1B3D 1B42-1B44 1B6B-1B73 1B80-1B81",
  "1BA2-1BA5 1BA8-1BAD 1BE6 1BE8-1BE9 1BED 1BEF-1BF3 1C2C-1C33 1C36-1C37 1CD0-1CD2",
  "1CD4-1CE0 1CE2-1CE8 1CED 1CF4 1CF8-1CF9 1DC0-1DFF 200B-200F 202A-202E 2060-206F",
  "20D0-20F0 2CEF-2CF1 2DE0-2DFF 302A-302F 3099-309A 3164 A66F-A672 A674-A67D A69E-A69F",
  "A6F0-A6F1 A802 A806 A80B A825-A826 A82C A8C4-A8C5 A8E0-A8F1 A8FA A8FF A926-A92D",
  "A947-A951 A953 A980-A982 A9B3 A9B6-A9B9 A9BC-A9BD A9C0 A9E5 AA29-AA2E AA31-AA32",
  "AA35-AA36 AA43 AA4C AA7C AAB0 AAB2-AAB4 AAB7-AAB8 AABE-AABF AAC1 AAEC-AAED AAF6 ABE5",
  "ABE8 ABED D7B0-D7C6 D7CB-D7FB FB1E FE00-FE0F FE20-FE2F FEFF FFA0 FFF0-FFF8 101FD 102E0",
  "10376-1037A 10A01-10A03 10A05-10A06 10A0C-10A0F 10A38-10A3A 10A3F 10AE5-10AE6",
  "10D24-10D27 10D69-10D6D 10EAB-10EAC 10EFA-10EFF 10F46-10F50 10F82-10F85 11001",
  "11038-11046 11070 11073-11074 1107F-11081 110B3-110B6 110B9-110BA 110C2 11100-11102",
  "11127-1112B 1112D-11134 11173 11180-11181 111B6-111BE 111C0 111C2-111C3 111C9-111CC",
  "111CF 1122F-11231 11234-11237 1123E 11241 112DF 112E3-112EA 11300-11301 1133B-1133C",
  "1133E 11340 1134D 11357 11366-1136C 11370-11374 113B8 113BB-113C0 113C2 113C5",
  "113C7-113C9 113CE-113D2 113E1-113E2 11438-1143F 11442-11444 11446 1145E 114B0",
  "114B3-114B8 114BA 114BD 114BF-114C0 114C2-114C3 115AF 115B2-115B5 115BC-115BD",
  "115BF-115C0 115DC-115DD 11633-1163A 1163D 1163F-11640 116AB 116AD 116B0-116B7 1171D",
  "1171F 11722-11725 11727-1172B 1182F-11837 11839-1183A 11930 1193B-1193F 11941 11943",
  "119D4-119D7 119DA-119DB 119E0 11A01-11A0A 11A33-11A38 11A3A-11A3E 11A47 11A51-11A56",
  "11A59-11A5B 11A84-11A96 11A98-11A99 11B60 11B62-11B64 11B66 11C30-11C36 11C38-11C3D",
  "11C3F 11C92-11CA7 11CAA-11CB0 11CB2-11CB3 11CB5-11CB6 11D31-11D36 11D3A 11D3C-11D3D",
  "11D3F-11D47 11D90-11D91 11D95 11D97 11EF3-11EF4 11F00-11F02 11F36-11F3A 11F40-11F42",
  "11F5A 13440 13447-13455 1611E-16129 1612D-1612F 16AF0-16AF4 16B30-16B36 16F4F",
  "16F8F-16F92 16FE4 16FF0-16FF1 1BC9D-1BC9E 1BCA0-1BCA3 1CF00-1CF2D 1CF30-1CF46",
  "1D165-1D169 1D16D-1D182 1D185-1D18B 1D1AA-1D1AD 1D242-1D244 1DA00-1DA36 1DA3B-1DA6C",
  "1DA75 1DA84 1DA9B-1DA9F 1DAA1-1DAAF 1E000-1E006 1E008-1E018 1E01B-1E021 1E023-1E024",
  "1E026-1E02A 1E08F 1E130-1E136 1E2AE 1E2EC-1E2EF 1E4EC-1E4EF 1E5EE-1E5EF 1E6E3 1E6E6",
  "1E6EE-1E6EF 1E6F5 1E8D0-1E8D6 1E944-1E94A E0000-E0FFF"]

/-- Characters without width that part the letters of an Arabic ligature. -/
def parting : Ranges := .ofTable [
  "605 890-891 8E2 9BE 9D7 B3E B57 BBE BD7 CC0 CC2 CC7-CC8 CCA-CCB CD5-CD6 D3E D4E D57 DCF",
  "DDF 1160-11FF 1715 1734 180E 1B35 1B3B 1B3D 1B43-1B44 1BAA 1BF2-1BF3 200C-200D",
  "2065-2069 302E-302F 3164 A8FA A953 A9C0 D7B0-D7C6 D7CB-D7FB FFA0 FFF0-FFF8 111C0",
  "111C2-111C3 11235 1133E 1134D 11357 113B8 113C2 113C5 113C7-113C9 113CF 113D1 114B0",
  "114BD 115AF 116B6 11930 1193D 1193F 11941 11A3A 11A84-11A89 11D46 11F02 11F41",
  "16FF0-16FF1 1D165-1D166 1D16D-1D172 E0000 E0002-E001F E0080-E00FF E01F0-E0FFF"]

/-- Characters that are drawn as emoji, two columns wide, unless a variation selector follows. -/
def emoji : Ranges := .ofTable [
  "231A-231B 23E9-23EC 23F0 23F3 25FD-25FE 2614-2615 2648-2653 267F 2693 26A1 26AA-26AB",
  "26BD-26BE 26C4-26C5 26CE 26D4 26EA 26F2-26F3 26F5 26FA 26FD 2705 270A-270B 2728 274C",
  "274E 2753-2755 2757 2795-2797 27B0 27BF 2B1B-2B1C 2B50 2B55 1F004 1F0CF 1F18E",
  "1F191-1F19A 1F201 1F21A 1F22F 1F232-1F236 1F238-1F23A 1F250-1F251 1F300-1F320",
  "1F32D-1F335 1F337-1F37C 1F37E-1F393 1F3A0-1F3CA 1F3CF-1F3D3 1F3E0-1F3F0 1F3F4",
  "1F3F8-1F3FA 1F400-1F43E 1F440 1F442-1F4FC 1F4FF-1F53D 1F54B-1F54E 1F550-1F567 1F57A",
  "1F595-1F596 1F5A4 1F5FB-1F64F 1F680-1F6C5 1F6CC 1F6D0-1F6D2 1F6D5-1F6D8 1F6DC-1F6DF",
  "1F6EB-1F6EC 1F6F4-1F6FC 1F7E0-1F7EB 1F7F0 1F90C-1F93A 1F93C-1F945 1F947-1F9FF",
  "1FA70-1FA7C 1FA80-1FA8A 1FA8E-1FAC6 1FAC8 1FACD-1FADC 1FADF-1FAEA 1FAEF-1FAF8"]

/-- Emoji that a variation selector makes text of. -/
def emojiOrText : Ranges := .ofTable [
  "231A-231B 23E9-23EC 23F0 23F3 25FD-25FE 2614-2615 2648-2653 267F 2693 26A1 26AA-26AB",
  "26BD-26BE 26C4-26C5 26CE 26D4 26EA 26F2-26F3 26F5 26FA 26FD 2705 270A-270B 2728 274C",
  "274E 2753-2755 2757 2795-2797 27B0 27BF 2B1B-2B1C 2B50 2B55 1F004 1F21A 1F22F",
  "1F30D-1F30F 1F315 1F31C 1F378 1F393 1F3A7 1F3AC-1F3AE 1F3C2 1F3C4 1F3C6 1F3CA 1F3E0",
  "1F3ED 1F408 1F415 1F41F 1F426 1F442 1F446-1F449 1F44D-1F44E 1F453 1F46A 1F47D 1F4A3",
  "1F4B0 1F4B3 1F4BB 1F4BF 1F4CB 1F4DA 1F4DF 1F4E4-1F4E6 1F4EA-1F4ED 1F4F7 1F4F9-1F4FB",
  "1F508 1F50D 1F512-1F513 1F550-1F567 1F610 1F687 1F68D 1F691 1F694 1F698 1F6AD 1F6B2",
  "1F6B9-1F6BA 1F6BC"]

/-- Characters that are drawn as text, one column wide, unless a variation selector makes emoji of
them. -/
def textOrEmoji : Ranges := .ofTable [
  "23 2A 30-39 A9 AE 203C 2049 2122 2139 2194-2199 21A9-21AA 2328 23CF 23ED-23EF 23F1-23F2",
  "23F8-23FA 24C2 25AA-25AB 25B6 25C0 25FB-25FC 2600-2604 260E 2611 2618 261D 2620",
  "2622-2623 2626 262A 262E-262F 2638-263A 2640 2642 265F-2660 2663 2665-2666 2668 267B",
  "267E 2692 2694-2697 2699 269B-269C 26A0 26A7 26B0-26B1 26C8 26CF 26D1 26D3 26E9",
  "26F0-26F1 26F4 26F7-26F9 2702 2708-2709 270C-270D 270F 2712 2714 2716 271D 2721",
  "2733-2734 2744 2747 2763-2764 27A1 2934-2935 2B05-2B07 3030 303D 3297 3299 1F170-1F171",
  "1F17E-1F17F 1F202 1F237 1F321 1F324-1F32C 1F336 1F37D 1F396-1F397 1F399-1F39B",
  "1F39E-1F39F 1F3CB-1F3CE 1F3D4-1F3DF 1F3F3 1F3F5 1F3F7 1F43F 1F441 1F4FD 1F549-1F54A",
  "1F56F-1F570 1F573-1F579 1F587 1F58A-1F58D 1F590 1F5A5 1F5A8 1F5B1-1F5B2 1F5BC",
  "1F5C2-1F5C4 1F5D1-1F5D3 1F5DC-1F5DE 1F5E1 1F5E3 1F5E8 1F5EF 1F5F3 1F5FA 1F6CB",
  "1F6CD-1F6CF 1F6E0-1F6E5 1F6E9 1F6F0 1F6F3"]

/-- Emoji that a modifier colours. -/
def modifiable : Ranges := .ofTable [
  "261D 26F9 270A-270D 1F385 1F3C2-1F3C4 1F3C7 1F3CA-1F3CC 1F442-1F443 1F446-1F450",
  "1F466-1F478 1F47C 1F481-1F483 1F485-1F487 1F48F 1F491 1F4AA 1F574-1F575 1F57A 1F590",
  "1F595-1F596 1F645-1F647 1F64B-1F64F 1F6A3 1F6B4-1F6B6 1F6C0 1F6CC 1F90C 1F90F",
  "1F918-1F91F 1F926 1F930-1F939 1F93C-1F93E 1F977 1F9B5-1F9B6 1F9B8-1F9B9 1F9BB",
  "1F9CD-1F9CF 1F9D1-1F9DD 1FAC3-1FAC5 1FAF0-1FAF8"]

/-- The emoji modifiers, which colour the emoji before them. -/
def modifiers : Ranges := [(0x1F3FB, 0x1F3FF)]

/-- Halves of the signs of regions. -/
def regions : Ranges := [(0x1F1E6, 0x1F1FF)]

/-- Marks without width that leave ligatures as they are. -/
def transparent : Ranges := .ofTable [
  "34F 17B4-17B5 180B-180D 180F FE00-FE0F E0100-E01EF"]

/-- The letters Alef of Arabic. -/
def alefs : Ranges := .ofTable [
  "622-623 625 627 671-673 675 773-774 870-882"]

/-- The letters Lam of Arabic. -/
def lams : Ranges := .ofTable [
  "644 6B5-6B8 76A 8A6 8C7"]

/-- The letters of Khmer that take no column below another letter. -/
def khmerLetters : Ranges := .ofTable [
  "1780-1782 1784-1787 1789-178C 178E-1793 1795-1798 179B-179D 17A0 17A2 17A7 17AB-17AC",
  "17AF"]

/-- The consonants of Tifinagh. -/
def tifinaghConsonants : Ranges := .ofTable [
  "2D31-2D65 2D6F"]

/-! ## What follows -/

/-- What stands behind a place, as far as it changes the width of what stands before. -/
inductive Tail
  /-- Nothing that changes it. -/
  | plain
  /-- A line feed. -/
  | lineFeed
  /-- An emoji modifier. -/
  | modifier
  /-- Half of the sign of a region. -/
  | region
  /-- Several halves of signs of regions. -/
  | regions
  /-- An emoji. -/
  | emoji
  /-- A joiner and an emoji. -/
  | joined
  /-- The sign of a key, a joiner and an emoji. -/
  | joinedKey
  /-- Half of the sign of a region, a joiner and an emoji. -/
  | joinedRegion
  /-- An even number of halves of signs of regions, a joiner and an emoji. -/
  | joinedEven
  /-- An odd number of them but one, a joiner and an emoji. -/
  | joinedOdd
  /-- The end of a tag with so many letters and digits before it, a joiner and an emoji. -/
  | joinedTag (letters digits : Nat)
  /-- Alef. -/
  | alef
  /-- Lamed, with a joiner before it or not. -/
  | lamed (joined : Bool)
  /-- A letter of Khmer that goes below another. -/
  | khmer
  /-- The letter Ya of Buginese, with a joiner before it or not. -/
  | ya (joined : Bool)
  /-- The vowel sign I, a joiner and the letter Ya of Buginese. -/
  | vowelYa
  /-- A consonant of Tifinagh, with a joiner before it or not. -/
  | tifinagh (joined : Bool)
  /-- The sign that joins consonants of Tifinagh, and a consonant. -/
  | tifinaghJoined
  /-- A second letter of a Lisu tone. -/
  | lisu
  /-- The letter I of Orkhon, with a joiner before it or not. -/
  | orkhon (joined : Bool)
  /-- The vowel sign E of Kirat Rai. -/
  | kiratE
  /-- The vowel sign AI of Kirat Rai, as one character or as two. -/
  | kiratAi
  deriving DecidableEq, Repr

/-- What the last variation selector before a tail asks for. -/
inductive Selector
  /-- There is none. -/
  | none
  /-- The character before it is drawn as an emoji. -/
  | emoji
  /-- The character before it is drawn as text. -/
  | text
  /-- The mark of quotation before it is two columns wide. -/
  | wideQuote
  deriving DecidableEq, Repr

namespace Tail

/-- Tails that are the end of a ligature of a script. -/
def isLigature : Tail → Bool
  | .alef | .lamed _ | .khmer | .ya _ | .vowelYa | .tifinagh _ | .tifinaghJoined | .lisu
  | .orkhon _ => true
  | _ => false

/-- What is left of a tail behind a variation selector. -/
def behindSelector (tail : Tail) (selector : Selector) : Tail :=
  if tail.isLigature || (selector == .emoji && (tail == .joined || tail == .joinedKey)) then tail
  else .plain

/-- A ligature with a joiner before it. -/
def join : Tail → Tail
  | .lamed _ => .lamed true
  | .ya _ => .ya true
  | .tifinagh _ => .tifinagh true
  | .orkhon _ => .orkhon true
  | tail => tail

/-- The width of a character before nothing that changes it, and the tail that it starts. -/
def single (c : Char) : Int × Tail :=
  if alefs.contains c then (1, .alef)
  else if c = '\u05DC' then (1, .lamed false)
  else if khmerLetters.contains c then (1, .khmer)
  else if c = '\u17D8' then (3, .plain)
  else if c = '\u17A4' then (2, .plain)
  else if c = '\u1A10' then (1, .ya false)
  else if tifinaghConsonants.contains c then (1, .tifinagh false)
  else if c = '\uA4FC' ∨ c = '\uA4FD' then (1, .lisu)
  else if c.toNat = 0x10C03 then (1, .orkhon false)
  else if c.toNat = 0x16D67 then (1, .kiratE)
  else if c.toNat = 0x16D68 then (1, .kiratAi)
  else if Width.regions.contains c then (1, .region)
  else if modifiers.contains c then (2, .modifier)
  else if Width.emoji.contains c then (2, .emoji)
  else if widthless.contains c then (0, .plain)
  else if wide.contains c then (2, .plain)
  else (1, .plain)

/-- What a character before the end of a ligature adds to its width, and the tail that the two are,
if the character belongs to the ligature. -/
def ligature? (tail : Tail) (c : Char) : Option (Int × Tail) :=
  match tail with
  | .alef =>
    if lams.contains c then some (0, .plain)
    else if (single c).1 = 0 && !parting.contains c then some (0, .alef)
    else none
  | .lamed true => if c = '\u05D0' then some (0, .plain) else none
  | .khmer => if c = '\u17D2' then some (-1, .plain) else none
  | .ya true => if c = '\u1A17' then some (0, .vowelYa) else none
  | .vowelYa => if c = '\u1A15' then some (0, .plain) else none
  | .tifinagh hasJoiner =>
    if c = '\u2D7F' then some (1, .tifinaghJoined)
    else if hasJoiner && tifinaghConsonants.contains c then some (0, .plain)
    else none
  | .tifinaghJoined => if tifinaghConsonants.contains c then some (-1, .plain) else none
  | .lisu => if '\uA4F8' ≤ c ∧ c ≤ '\uA4FB' then some (0, .plain) else none
  | .orkhon true => if c.toNat = 0x10C32 then some (0, .plain) else none
  | .kiratE =>
    if c.toNat = 0x16D63 ∨ c.toNat = 0x16D69 then some (0, .plain)
    else if c.toNat = 0x16D67 then some (0, .kiratAi)
    else if c.toNat = 0x16D68 then some (1, .kiratE)
    else none
  | .kiratAi => if c.toNat = 0x16D63 then some (0, .plain) else none
  | _ => none

/-- What a character of a tag adds before the end of a tag with so many letters and digits. -/
def tag? (letters digits : Nat) (c : Char) : Option (Int × Tail) :=
  let n := c.toNat
  if 0xE0061 ≤ n ∧ n ≤ 0xE007A ∧ letters < 6 ∧ digits = 0 then
    some (0, .joinedTag (letters + 1) 0)
  else if 0xE0030 ≤ n ∧ n ≤ 0xE0039 ∧ (digits = 0 → letters ≤ 4) ∧ digits < 3 then
    some (0, .joinedTag letters (digits + 1))
  else if n = 0x1F3F4 ∧ (digits = 3 ∨ (digits = 0 ∧ 3 ≤ letters)) then some (0, .emoji)
  else none

/-- What a character before a sequence of emoji adds to its width, and the tail that the two are, if
the character belongs to the sequence. -/
def sequence? (tail : Tail) (c : Char) : Option (Int × Tail) :=
  let isRegion := Width.regions.contains c
  let isJoiner := c == '\u200D'
  match tail with
  | .modifier =>
    if modifiable.contains c then some (0, .emoji)
    else if isJoiner then some (0, .joined)
    else none
  | .region => if isRegion then some (1, .regions) else none
  | .regions =>
    if isRegion then some (1, .regions) else if isJoiner then some (0, .joined) else none
  | .emoji => if isJoiner then some (0, .joined) else none
  | .joined =>
    if c = '\u20E3' then some (0, .joinedKey)
    else if isRegion then some (1, .joinedRegion)
    else if modifiers.contains c then some (0, .modifier)
    else if c.toNat = 0xE007F then some (0, .joinedTag 0 0)
    else if (single c).2 = .emoji then some (0, .emoji)
    else none
  | .joinedRegion => if isRegion then some (-1, .joinedEven) else none
  | .joinedEven =>
    if isRegion then some (3, .joinedOdd) else if isJoiner then some (0, .joined) else none
  | .joinedOdd =>
    if isRegion then some (-1, .joinedEven) else if isJoiner then some (0, .joined) else none
  | .joinedTag letters digits => tag? letters digits c
  | _ => none

/-- What a character beyond ASCII adds before a tail behind which no variation selector acts, and
the tail that the two are. -/
def before (tail : Tail) (c : Char) : Int × Tail :=
  if tail.isLigature && tail != .alef && c == '\u200D' then (0, tail.join)
  else if tail.isLigature && tail != .alef && transparent.contains c then (0, tail)
  else ((tail.ligature? c).orElse fun _ => tail.sequence? c).getD (single c)

end Tail

/-- What is known of a text that is measured from its end: its width, its tail, and the variation
selector that it starts with. -/
structure Measured where
  /-- The number of columns. -/
  width : Int
  /-- What the text is to the character before it. -/
  tail : Tail
  /-- What the text asks of the character before it. -/
  selector : Selector

namespace Measured

/-- The empty text. -/
def empty : Measured := ⟨0, .plain, .none⟩

/-- A text with a variation selector before it. -/
def select (m : Measured) (selector : Selector) : Measured :=
  ⟨m.width, m.tail.behindSelector selector, selector⟩

/-- A text with a character before it that no variation selector changes. -/
def push (m : Measured) (tail : Tail) (c : Char) : Measured :=
  if c.toNat ≤ 0xA0 then
    if c = '\n' then ⟨m.width + 1, .lineFeed, .none⟩
    else if c = '\r' ∧ tail = .lineFeed then ⟨m.width, .plain, .none⟩
    else ⟨m.width + 1, .plain, .none⟩
  else
    let (own, tail) := tail.before c
    ⟨m.width + own, tail, .none⟩

/-- A text with a character before it. -/
def cons (c : Char) (m : Measured) : Measured :=
  if m.selector = .emoji && (textOrEmoji.contains c || emojiOrText.contains c) then
    ⟨m.width + if m.tail = .joined || m.tail = .joinedKey then 0 else 2, .emoji, .none⟩
  else
    let tail := if m.selector = .emoji && !m.tail.isLigature then .plain else m.tail
    let m := { m with tail := tail }
    if c = '\uFE0F' then m.select .emoji
    else if c = '\uFE0E' then m.select .text
    else if c = '\uFE01' then m.select .wideQuote
    else if m.selector = .text && emojiOrText.contains c && !isEnclosed c then
      ⟨m.width + 1, .plain, .none⟩
    else if m.selector = .wideQuote && isQuote c then ⟨m.width + 2, .plain, .none⟩
    else m.push tail c
where
  /-- Whether a character is an enclosed ideograph, which stays as wide as it is. -/
  isEnclosed (c : Char) : Bool := 0x1F200 ≤ c.toNat && c.toNat ≤ 0x1F2FF
  /-- Whether a character is a curved mark of quotation. -/
  isQuote (c : Char) : Bool := c == '\u2018' || c == '\u2019' || c == '\u201C' || c == '\u201D'

end Measured

end Width

/-- The number of columns of a line. -/
def width (line : Text) : Nat := (line.foldr Width.Measured.cons .empty).width.toNat

end Text

end Kindred
