import Kindred.Vocabulary.Reader

/-!
# The English vocabulary

The vocabulary that holds where no other is given, as the lines of its text. In the templates of
terms the gaps 0 and 1 are the vertical and the horizontal degree, written as ordinals, and the
gap 4 is the difference between the legs, written as a cardinal.
-/

namespace Kindred

namespace Vocabulary

namespace English

/-- The phrase for what is no code, the ordinal suffixes and the possessive forms. -/
def general : List String := [
  "// English kinship vocabulary.",
  "//",
  "// Term placeholders: \x7b0\x7d vertical degree, \x7b1\x7d horizontal degree (both",
  "// ordinals), \x7b2\x7d min, \x7b3\x7d max, \x7b4\x7d generation difference (cardinals).",
  "// Genitive placeholders: \x7b0\x7d text before the word, \x7b1\x7d text after it.",
  "",
  "unrelated = \"unrelated\";",
  "ordinals = \x7b one: \"st\", two: \"nd\", few: \"rd\", other: \"th\" \x7d;",
  "",
  "genitive default = \"\x7b0\x7d's \x7b1\x7d\";",
  "genitive \"I\" = \"\x7b0\x7dmy\x7b1\x7d \";",
  ""]

/-- Parents, children, siblings and spouses. -/
def immediateFamily : List String := [
  "// =============================================================================",
  "// Immediate family",
  "// =============================================================================",
  "",
  "term F = \"father\";",
  "term M = \"mother\";",
  "term P = \"parent\";",
  "term S = \"son\";",
  "term D = \"daughter\";",
  "term C = \"child\";",
  "term B = \"brother\";",
  "term Z = \"sister\";",
  "term G = \"sibling\";",
  "term H = \"husband\";",
  "term W = \"wife\";",
  "term E = \"spouse\";",
  ""]

/-- Ancestors and descendants in the direct line. -/
def lineage : List String := [
  "// =============================================================================",
  "// Direct ancestors and descendants",
  "// =============================================================================",
  "",
  "term PF = \"grandfather\";",
  "term PM = \"grandmother\";",
  "term PP = \"grandparent\";",
  "term CS = \"grandson\";",
  "term CD = \"granddaughter\";",
  "term CC = \"grandchild\";",
  "",
  "term PPF = \"great-grandfather\";",
  "term PPM = \"great-grandmother\";",
  "term PPP = \"great-grandparent\";",
  "term CCS = \"great-grandson\";",
  "term CCD = \"great-granddaughter\";",
  "term CCC = \"great-grandchild\";",
  "",
  "term \"P+F\" = \"\x7b0\x7d great-grandfather\";",
  "term \"P+M\" = \"\x7b0\x7d great-grandmother\";",
  "term \"P+P\" = \"\x7b0\x7d great-grandparent\";",
  "term \"C+S\" = \"\x7b0\x7d great-grandson\";",
  "term \"C+D\" = \"\x7b0\x7d great-granddaughter\";",
  "term \"C+C\" = \"\x7b0\x7d great-grandchild\";",
  ""]

/-- Uncles, aunts, nephews, nieces and cousins. -/
def collaterals : List String := [
  "// =============================================================================",
  "// Collateral relatives",
  "// =============================================================================",
  "",
  "term PB = \"uncle\";",
  "term PZ = \"aunt\";",
  "term PG = \"uncle or aunt\";",
  "term PPB = \"great-uncle\";",
  "term PPZ = \"great-aunt\";",
  "term PPG = \"great-uncle or great-aunt\";",
  "term GS = \"nephew\";",
  "term GD = \"niece\";",
  "term GC = \"nephew or niece\";",
  "term GCS = \"grandnephew\";",
  "term GCD = \"grandniece\";",
  "term GCC = \"grandnephew or grandniece\";",
  "",
  "term PGC = \"\x7b1\x7d cousin\";",
  "term PPGC = \"\x7b1\x7d cousin once removed\";",
  "term PGCC = \"\x7b1\x7d cousin once removed\";",
  "term \"P+GC\" = \"\x7b1\x7d cousin \x7b4\x7d times removed\";",
  "term \"PGC+\" = \"\x7b1\x7d cousin \x7b4\x7d times removed\";",
  ""]

/-- Step relatives and relatives by marriage. -/
def inLaws : List String := [
  "// =============================================================================",
  "// Step relatives and in-laws",
  "// =============================================================================",
  "",
  "term PH = \"stepfather\";",
  "term PW = \"stepmother\";",
  "term PE = \"step-parent\";",
  "term ES = \"stepson\";",
  "term ED = \"stepdaughter\";",
  "term EC = \"stepchild\";",
  "",
  "term EF = \"father-in-law\";",
  "term EM = \"mother-in-law\";",
  "term EP = \"parent-in-law\";",
  "term CH = \"son-in-law\";",
  "term CW = \"daughter-in-law\";",
  "term CE = \"child-in-law\";",
  "term EB = \"brother-in-law\";",
  "term EZ = \"sister-in-law\";",
  "term EG = \"sibling-in-law\";",
  "term GH = \"brother-in-law\";",
  "term GW = \"sister-in-law\";",
  "term GE = \"sibling-in-law\";",
  ""]

/-- The rules for distant ancestors and descendants, of whom the last letter tells the sex, and for
cousins of any degree. -/
def rules : List String := [
  "// =============================================================================",
  "// Rules",
  "// =============================================================================",
  "",
  "// Four or more generations up or down: the last letter picks the gender.",
  "rule \"^[PMF]\x7b3,\x7d([PMF])$\" = \"P+$1#PPP\";",
  "rule \"^[CSD]\x7b3,\x7d([CSD])$\" = \"C+$1#CCC\";",
  "",
  "// Cousins of any degree, keyed by generations up minus generations down.",
  "rule \"[PMF]+[BZG][CSD]+\" = \"EQ(PGC#PGC);1(PPGC#PGC);-1(PGCC#PGC);GT(P+GC#PGC);LT(PGC+#PGC)\";"]

/-- The text of the English vocabulary. -/
def source : Text :=
  (general ++ immediateFamily ++ lineage ++ collaterals ++ inLaws ++ rules).flatMap fun line =>
    line.toList ++ ['\n']

end English

end Vocabulary

end Kindred
