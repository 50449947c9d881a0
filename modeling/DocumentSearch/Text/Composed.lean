import DocumentSearch.Text.Marks

/-!
Composed text, in which a letter and the marks behind it are one character wherever there is such a
character. Text is first taken apart and its marks are put in order, so that the result does not
depend on which marks were composed before.
-/

namespace DocumentSearch.Text

/-- A mark, letters that it can follow, and what it makes of each of them. -/
def letterCompositions : Array (Nat × String × String) :=
  #[(0x300, "aeiouünеиēōwâăêôơưyἀἁἐἑἠἡἰἱὀὁὐὑὠὡαεηιο", "àèìòùǜǹѐѝḕṑẁầằềồờừỳἂἃἒἓἢἣἲἳὂὃὒὓὢὣὰὲὴὶὸ"),
    (0x300, "υωϊϋ", "ὺὼῒῢ"),
    (0x301, "aeiouyclnrszügåæøϊαεηιϋουωгкçēïkmõōpũw", "áéíóúýćĺńŕśźǘǵǻǽǿΐάέήίΰόύώѓќḉḗḯḱḿṍṓṕṹẃ"),
    (0x301, "âăêôơưἀἁἐἑἠἡἰἱὀὁὐὑὠὡ", "ấắếốớứἄἅἔἕἤἥἴἵὄὅὔὕὤὥ"),
    (0x302, "aeioucghjswyzạẹọ", "âêîôûĉĝĥĵŝŵŷẑậệộ"), (0x303, "anoiuvâăeêôơưy", "ãñõĩũṽẫẵẽễỗỡữỹ"),
    (0x304, "aeiouüäȧæǫöõȯyиуgḷṛαιυ", "āēīōūǖǟǡǣǭȫȭȱȳӣӯḡḹṝᾱῑῡ"),
    (0x306, "aegiouиужаеȩạαιυ", "ăĕğĭŏŭйўӂӑӗḝặᾰῐῠ"),
    (0x307, "cegzaobdfhmnprsśšṣtwxy𐗒𐗚", "ċėġżȧȯḃḋḟḣṁṅṗṙṡṥṧṩṫẇẋẏ𐗉𐗤"),
    (0x308, "aeiouyιυеіаәжзиоөэучыhõūwxt", "äëïöüÿϊϋёїӓӛӝӟӥӧӫӭӱӵӹḧṏṻẅẍẗ"),
    (0x309, "aâăeêioôơuưy", "ảẩẳẻểỉỏổởủửỷ"), (0x30A, "auwy", "åůẘẙ"), (0x30B, "ouу", "őűӳ"),
    (0x30C, "cdelnrstzaiouügkʒjh", "čďěľňřšťžǎǐǒǔǚǧǩǯǰȟ"), (0x30F, "aeioruѵ", "ȁȅȉȍȑȕѷ"),
    (0x311, "aeioru", "ȃȇȋȏȓȗ"), (0x313, "αεηιουωρ", "ἀἐἠἰὀὐὠῤ"), (0x314, "αεηιουωρ", "ἁἑἡἱὁὑὡῥ"),
    (0x31B, "ou", "ơư"), (0x323, "bdhklmnrstvwzaeioơuưy", "ḅḍḥḳḷṃṇṛṣṭṿẉẓạẹịọợụựỵ"),
    (0x324, "u", "ṳ"), (0x325, "a", "ḁ"), (0x326, "st", "șț"),
    (0x327, "cgklnrstedh", "çģķļņŗşţȩḑḩ"), (0x328, "aeiuo", "ąęįųǫ"), (0x32D, "delntu", "ḓḙḽṋṱṷ"),
    (0x32E, "h", "ḫ"), (0x330, "eiu", "ḛḭṵ"), (0x331, "bdklnrtzh", "ḇḏḵḻṉṟṯẕẖ"),
    (0x338, "←→↔⇐⇔⇒∃∈∋∣∥∼≃≅≈=≡≍<>≤≥≲≳≶≷≺≻⊂⊃⊆⊇⊢⊨⊩⊫≼≽", "↚↛↮⇍⇎⇏∄∉∌∤∦≁≄≇≉≠≢≭≮≯≰≱≴≵≸≹⊀⊁⊄⊅⊈⊉⊬⊭⊮⊯⋠⋡"),
    (0x338, "⊑⊒⊲⊳⊴⊵", "⋢⋣⋪⋫⋬⋭"), (0x342, "ἀἁἠἡἰἱὐὑὠὡαηιϊυϋω", "ἆἇἦἧἶἷὖὗὦὧᾶῆῖῗῦῧῶ"),
    (0x3099, "かきくけこさしすせそたちつてとはひふへほうゝカキクケコサシスセソタチツテトハ", "がぎぐげござじずぜぞだぢづでどばびぶべぼゔゞガギグゲゴザジズゼゾダヂヅデドバ"),
    (0x3099, "ヒフヘホウワヰヱヲヽ", "ビブベボヴヷヸヹヺヾ"), (0x309A, "はひふへほハヒフヘホ", "ぱぴぷぺぽパピプペポ")]

/-- A letter or a vowel sign, what follows it, and what they make. -/
def signCompositions : Array (Nat × Nat × Nat) :=
  #[(0x627, 0x653, 0x622), (0x627, 0x654, 0x623), (0x648, 0x654, 0x624), (0x64A, 0x654, 0x626),
    (0x6D5, 0x654, 0x6C0), (0x6C1, 0x654, 0x6C2), (0x6D2, 0x654, 0x6D3), (0x627, 0x655, 0x625),
    (0x928, 0x93C, 0x929), (0x930, 0x93C, 0x931), (0x933, 0x93C, 0x934), (0x9C7, 0x9BE, 0x9CB),
    (0x9C7, 0x9D7, 0x9CC), (0xB47, 0xB3E, 0xB4B), (0xB47, 0xB56, 0xB48), (0xB47, 0xB57, 0xB4C),
    (0xBC6, 0xBBE, 0xBCA), (0xBC7, 0xBBE, 0xBCB), (0xB92, 0xBD7, 0xB94), (0xBC6, 0xBD7, 0xBCC),
    (0xC46, 0xC56, 0xC48), (0xCC6, 0xCC2, 0xCCA), (0xCBF, 0xCD5, 0xCC0), (0xCC6, 0xCD5, 0xCC7),
    (0xCCA, 0xCD5, 0xCCB), (0xCC6, 0xCD6, 0xCC8), (0xD46, 0xD3E, 0xD4A), (0xD47, 0xD3E, 0xD4B),
    (0xD46, 0xD57, 0xD4C), (0xDD9, 0xDCA, 0xDDA), (0xDDC, 0xDCA, 0xDDD), (0xDD9, 0xDCF, 0xDDC),
    (0xDD9, 0xDDF, 0xDDE), (0x1025, 0x102E, 0x1026), (0x1B05, 0x1B35, 0x1B06),
    (0x1B07, 0x1B35, 0x1B08), (0x1B09, 0x1B35, 0x1B0A), (0x1B0B, 0x1B35, 0x1B0C),
    (0x1B0D, 0x1B35, 0x1B0E), (0x1B11, 0x1B35, 0x1B12), (0x1B3A, 0x1B35, 0x1B3B),
    (0x1B3C, 0x1B35, 0x1B3D), (0x1B3E, 0x1B35, 0x1B40), (0x1B3F, 0x1B35, 0x1B41),
    (0x1B42, 0x1B35, 0x1B43), (0x11099, 0x110BA, 0x1109A), (0x1109B, 0x110BA, 0x1109C),
    (0x110A5, 0x110BA, 0x110AB), (0x11131, 0x11127, 0x1112E), (0x11132, 0x11127, 0x1112F),
    (0x11347, 0x1133E, 0x1134B), (0x11347, 0x11357, 0x1134C), (0x113C2, 0x113B8, 0x113C7),
    (0x11384, 0x113BB, 0x11385), (0x1138B, 0x113C2, 0x1138E), (0x113C2, 0x113C2, 0x113C5),
    (0x11382, 0x113C9, 0x11383), (0x11390, 0x113C9, 0x11391), (0x113C2, 0x113C9, 0x113C8),
    (0x114B9, 0x114B0, 0x114BC), (0x114B9, 0x114BA, 0x114BB), (0x114B9, 0x114BD, 0x114BE),
    (0x115B8, 0x115AF, 0x115BA), (0x115B9, 0x115AF, 0x115BB), (0x11935, 0x11930, 0x11938),
    (0x1611E, 0x1611E, 0x16121), (0x1611E, 0x1611F, 0x16123), (0x16129, 0x1611F, 0x16124),
    (0x16121, 0x1611F, 0x16126), (0x16122, 0x1611F, 0x16127), (0x1611E, 0x16120, 0x16125),
    (0x16121, 0x16120, 0x16128), (0x1611E, 0x16129, 0x16122), (0x16D67, 0x16D67, 0x16D68),
    (0x16D63, 0x16D67, 0x16D69), (0x16D69, 0x16D67, 0x16D6A)]

/-- A character, what follows it, and the character that stands for both. -/
structure Composition where
  base : Char
  mark : Char
  composed : Char

def letterCompositionList : List Composition :=
  letterCompositions.toList.flatMap fun (mark, bases, results) =>
    (bases.toList.zip results.toList).map fun (base, composed) => ⟨base, Char.ofNat mark, composed⟩

def signCompositionList : List Composition :=
  signCompositions.toList.map fun (base, mark, composed) =>
    ⟨Char.ofNat base, Char.ofNat mark, Char.ofNat composed⟩

def compositions : List Composition := letterCompositionList ++ signCompositionList

/-- Korean syllables are counted out: a leading consonant takes a vowel, and a syllable without a
final consonant takes one. -/
def composedSyllable? (base mark : Nat) : Option Char :=
  if 0x1100 ≤ base && base ≤ 0x1112 && 0x1161 ≤ mark && mark ≤ 0x1175 then
    some (Char.ofNat (0xAC00 + ((base - 0x1100) * 21 + (mark - 0x1161)) * 28))
  else if 0xAC00 ≤ base && base ≤ 0xD7A3 && (base - 0xAC00) % 28 = 0 &&
      0x11A8 ≤ mark && mark ≤ 0x11C2 then
    some (Char.ofNat (base + (mark - 0x11A7)))
  else none

def composed? (base mark : Char) : Option Char :=
  match composedSyllable? base.toNat mark.toNat with
  | some syllable => some syllable
  | none =>
      (compositions.find? fun entry => entry.mark = mark && entry.base = base).map (·.composed)

/-- Takes a character apart that holds at most `depth` compositions. Syllables stay whole, as
composing would only bring them back. -/
def decomposeChar : Nat → Char → List Char
  | 0, c => [c]
  | depth + 1, c =>
      match compositions.find? (·.composed = c) with
      | some entry => decomposeChar depth entry.base ++ [entry.mark]
      | none => [c]

/-- No letter has more than three marks in one character. -/
def deepest : Nat := 3

def decompose (text : List Char) : List Char := text.flatMap (decomposeChar deepest)

/-- Marks in the order of their classes; those of one class keep their order. -/
def sortMarks (marks : List (Char × Nat)) : List (Char × Nat) := marks.mergeSort (·.2 ≤ ·.2)

/-- The characters with their classes, as the marks they begin with and the rest, in which the
marks between letters are in the order of their classes. -/
def splitMarks : List Char → List (Char × Nat) × List (Char × Nat)
  | [] => ([], [])
  | c :: rest =>
      let (marks, text) := splitMarks rest
      let place := combiningClass c
      if place = 0 then ([], (c, place) :: (sortMarks marks ++ text))
      else ((c, place) :: marks, text)

def inOrder (text : List Char) : List (Char × Nat) :=
  let (marks, rest) := splitMarks text
  sortMarks marks ++ rest

/-- Composes the text behind a character that may still take marks. The marks it did not take are
`kept`, the last one first; `last` is the class of that one, and a mark of no higher class cannot
reach over it. -/
def composeBehind (base : Char) (kept : List Char) (last : Nat) : List (Char × Nat) → List Char
  | [] => base :: kept.reverse
  | (c, place) :: rest =>
      match if kept.isEmpty || last < place then composed? base c else none with
      | some composed => composeBehind composed kept last rest
      | none =>
          if place = 0 then base :: (kept.reverse ++ composeBehind c [] 0 rest)
          else composeBehind base (c :: kept) place rest

def compose (text : List Char) : List Char :=
  match inOrder (decompose text) with
  | [] => []
  | (c, _) :: rest => composeBehind c [] 0 rest

end DocumentSearch.Text
