import TuningAdvisor.Text.Emoji
import TuningAdvisor.Text.Extending
/-!
# Width in columns: the cells of `print_table`

How many columns of a fixed-width display a text takes. **The width of a character depends on what
stands behind it**: a selector makes a sign a picture, a joiner makes one picture of two, and some
letters flow into the next one. Therefore a text is measured from its end to its front, and what the
front part has to know of the rest is kept as a `Follower`.
-/

namespace TuningAdvisor

namespace CodePoints

/-- East Asian Width wide or fullwidth. -/
def wide : CodePoints :=
  [ (0x1100, 0x115f), (0x231a, 0x231b), (0x2329, 0x232a), (0x23e9, 0x23ec), (0x23f0, 0x23f0),
    (0x23f3, 0x23f3), (0x25fd, 0x25fe), (0x2614, 0x2615), (0x2630, 0x2637), (0x2648, 0x2653),
    (0x267f, 0x267f), (0x268a, 0x268f), (0x2693, 0x2693), (0x26a1, 0x26a1), (0x26aa, 0x26ab),
    (0x26bd, 0x26be), (0x26c4, 0x26c5), (0x26ce, 0x26ce), (0x26d4, 0x26d4), (0x26ea, 0x26ea),
    (0x26f2, 0x26f3), (0x26f5, 0x26f5), (0x26fa, 0x26fa), (0x26fd, 0x26fd), (0x2705, 0x2705),
    (0x270a, 0x270b), (0x2728, 0x2728), (0x274c, 0x274c), (0x274e, 0x274e), (0x2753, 0x2755),
    (0x2757, 0x2757), (0x2795, 0x2797), (0x27b0, 0x27b0), (0x27bf, 0x27bf), (0x2b1b, 0x2b1c),
    (0x2b50, 0x2b50), (0x2b55, 0x2b55), (0x2e80, 0x2e99), (0x2e9b, 0x2ef3), (0x2f00, 0x2fd5),
    (0x2ff0, 0x3029), (0x3030, 0x303e), (0x3041, 0x3096), (0x309b, 0x30ff), (0x3105, 0x312f),
    (0x3131, 0x3163), (0x3165, 0x318e), (0x3190, 0x31e5), (0x31ef, 0x321e), (0x3220, 0x3247),
    (0x3250, 0xa48c), (0xa490, 0xa4c6), (0xa960, 0xa97c), (0xac00, 0xd7a3), (0xf900, 0xfaff),
    (0xfe10, 0xfe19), (0xfe30, 0xfe52), (0xfe54, 0xfe66), (0xfe68, 0xfe6b), (0xff01, 0xff60),
    (0xffe0, 0xffe6), (0x16fe0, 0x16fe3), (0x17000, 0x187f7), (0x18800, 0x18cd5),
    (0x18cff, 0x18d08), (0x1aff0, 0x1aff3), (0x1aff5, 0x1affb), (0x1affd, 0x1affe),
    (0x1b000, 0x1b122), (0x1b132, 0x1b132), (0x1b150, 0x1b152), (0x1b155, 0x1b155),
    (0x1b164, 0x1b167), (0x1b170, 0x1b2fb), (0x1d300, 0x1d356), (0x1d360, 0x1d376),
    (0x1f004, 0x1f004), (0x1f0cf, 0x1f0cf), (0x1f18e, 0x1f18e), (0x1f191, 0x1f19a),
    (0x1f200, 0x1f202), (0x1f210, 0x1f23b), (0x1f240, 0x1f248), (0x1f250, 0x1f251),
    (0x1f260, 0x1f265), (0x1f300, 0x1f320), (0x1f32d, 0x1f335), (0x1f337, 0x1f37c),
    (0x1f37e, 0x1f393), (0x1f3a0, 0x1f3ca), (0x1f3cf, 0x1f3d3), (0x1f3e0, 0x1f3f0),
    (0x1f3f4, 0x1f3f4), (0x1f3f8, 0x1f43e), (0x1f440, 0x1f440), (0x1f442, 0x1f4fc),
    (0x1f4ff, 0x1f53d), (0x1f54b, 0x1f54e), (0x1f550, 0x1f567), (0x1f57a, 0x1f57a),
    (0x1f595, 0x1f596), (0x1f5a4, 0x1f5a4), (0x1f5fb, 0x1f64f), (0x1f680, 0x1f6c5),
    (0x1f6cc, 0x1f6cc), (0x1f6d0, 0x1f6d2), (0x1f6d5, 0x1f6d7), (0x1f6dc, 0x1f6df),
    (0x1f6eb, 0x1f6ec), (0x1f6f4, 0x1f6fc), (0x1f7e0, 0x1f7eb), (0x1f7f0, 0x1f7f0),
    (0x1f90c, 0x1f93a), (0x1f93c, 0x1f945), (0x1f947, 0x1f9ff), (0x1fa70, 0x1fa7c),
    (0x1fa80, 0x1fa89), (0x1fa8f, 0x1fac6), (0x1face, 0x1fadc), (0x1fadf, 0x1fae9),
    (0x1faf0, 0x1faf8), (0x20000, 0x2fffd), (0x30000, 0x3fffd) ]

/-- Layout marks, conjoining vowels and finals, signs in front of a cluster, and the voiced sound
marks, which take no column. -/
def invisible : CodePoints :=
  [ (0xad, 0xad), (0x605, 0x605), (0x61c, 0x61c), (0x70f, 0x70f), (0x890, 0x891), (0x8e2, 0x8e2),
    (0xd4e, 0xd4e), (0x1160, 0x11ff), (0x180e, 0x180e), (0x200b, 0x200b), (0x200d, 0x200f),
    (0x202a, 0x202e), (0x2060, 0x206f), (0x3164, 0x3164), (0xa8fa, 0xa8fa), (0xd7b0, 0xd7c6),
    (0xd7cb, 0xd7fb), (0xfeff, 0xfeff), (0xff9e, 0xffa0), (0xfff0, 0xfff8), (0x111c2, 0x111c3),
    (0x113d1, 0x113d1), (0x1193f, 0x1193f), (0x11941, 0x11941), (0x11a3a, 0x11a3a),
    (0x11a84, 0x11a89), (0x11d46, 0x11d46), (0x11f02, 0x11f02), (0x1bca0, 0x1bca3),
    (0x1d173, 0x1d17a), (0xe0000, 0xe001f), (0xe0080, 0xe00ff), (0xe01f0, 0xe0fff) ]

/-- Extending characters that displays do not know yet, and give a column. -/
def recent : CodePoints :=
  [ (0x1acf, 0x1add), (0x1ae0, 0x1aeb), (0x10efa, 0x10efb), (0x11b60, 0x11b60), (0x11b62, 0x11b64),
    (0x11b66, 0x11b66), (0x1e6e3, 0x1e6e3), (0x1e6e6, 0x1e6e6), (0x1e6ee, 0x1e6ef),
    (0x1e6f5, 0x1e6f5) ]

/-- The spacing marks among the extending characters. -/
def spacing : CodePoints :=
  [ (0x9be, 0x9be), (0x9d7, 0x9d7), (0xb3e, 0xb3e), (0xb57, 0xb57), (0xbbe, 0xbbe), (0xbd7, 0xbd7),
    (0xcc0, 0xcc0), (0xcc2, 0xcc2), (0xcc7, 0xcc8), (0xcca, 0xccb), (0xcd5, 0xcd6), (0xd3e, 0xd3e),
    (0xd57, 0xd57), (0xdcf, 0xdcf), (0xddf, 0xddf), (0x1715, 0x1715), (0x1734, 0x1734),
    (0x1b35, 0x1b35), (0x1b3b, 0x1b3b), (0x1b3d, 0x1b3d), (0x1b43, 0x1b44), (0x1baa, 0x1baa),
    (0x1bf2, 0x1bf3), (0x302e, 0x302f), (0xa953, 0xa953), (0xa9c0, 0xa9c0), (0x111c0, 0x111c0),
    (0x11235, 0x11235), (0x1133e, 0x1133e), (0x1134d, 0x1134d), (0x11357, 0x11357),
    (0x113b8, 0x113b8), (0x113c2, 0x113c2), (0x113c5, 0x113c5), (0x113c7, 0x113c9),
    (0x113cf, 0x113cf), (0x114b0, 0x114b0), (0x114bd, 0x114bd), (0x115af, 0x115af),
    (0x116b6, 0x116b6), (0x11930, 0x11930), (0x1193d, 0x1193d), (0x11f41, 0x11f41),
    (0x16ff0, 0x16ff1), (0x1d165, 0x1d166), (0x1d16d, 0x1d172) ]

/-- Layout marks that do not keep two letters of a joined script apart. -/
def joinable : CodePoints :=
  [ (0xad, 0xad), (0x61c, 0x61c), (0x70f, 0x70f), (0x200b, 0x200b), (0x200e, 0x200f),
    (0x202a, 0x202e), (0x2060, 0x2064), (0x206a, 0x206f), (0xfeff, 0xfeff), (0x1bca0, 0x1bca3),
    (0x1d173, 0x1d17a), (0xe0001, 0xe0001) ]

/-- Combining marks that are ignored where they have no glyph. -/
def ignorableMarks : CodePoints :=
  [ (0x34f, 0x34f), (0x17b4, 0x17b5), (0x180b, 0x180d), (0x180f, 0x180f), (0x200d, 0x200d),
    (0xfe00, 0xfe0f), (0xe0100, 0xe01ef) ]

/-- The group of the Arabic letter alef. -/
def alefs : CodePoints :=
  [ (0x622, 0x623), (0x625, 0x625), (0x627, 0x627), (0x671, 0x673), (0x675, 0x675),
    (0x773, 0x774), (0x870, 0x882) ]

/-- The group of the Arabic letter lam. -/
def lams : CodePoints :=
  [(0x644, 0x644), (0x6b5, 0x6b8), (0x76a, 0x76a), (0x8a6, 0x8a6), (0x8c7, 0x8c7)]

/-- Khmer letters that can stand below another. -/
def subjoined : CodePoints :=
  [ (0x1780, 0x1782), (0x1784, 0x1787), (0x1789, 0x178c), (0x178e, 0x1793), (0x1795, 0x1798),
    (0x179b, 0x179d), (0x17a0, 0x17a0), (0x17a2, 0x17a2), (0x17a7, 0x17a7), (0x17ab, 0x17ac),
    (0x17af, 0x17af) ]

def tifinagh : CodePoints := [(0x2d31, 0x2d65), (0x2d6f, 0x2d6f)]

/-- Regional indicators, two of which make a flag. -/
def indicators : CodePoints := [(0x1f1e6, 0x1f1ff)]

def tones : CodePoints := [(0x1f3fb, 0x1f3ff)]

end CodePoints

/-! ## What stands behind a character -/

/-- A letter that the one in front of it may flow into. -/
inductive Joining where
  | alef
  /-- Lamed; `joined` when a joiner stands in front of it. -/
  | lamed (joined : Bool)
  | buginese (joined : Bool)
  /-- A Buginese vowel sign in front of a joined letter. -/
  | buginesePair
  | tifinagh (joined : Bool)
  /-- The sign that joins Tifinagh consonants, in front of one. -/
  | tifinaghPair
  | lisu
  | orkhon (joined : Bool)
  | khmer
deriving DecidableEq, Repr

/-- What comes behind a character, as far as its width depends on it. -/
inductive Follower where
  | plain
  | tone
  | indicator
  | flag
  | picture
  /-- A joiner and a picture, with `keycap` when the sign for keys stands in front of them. -/
  | joinedPicture (keycap : Bool)
  | joinedIndicator
  | joinedFlag (odd : Bool)
  /-- The end of the tags of a flag in front of a joined picture, with the counts of letters and of
  digits that were read. -/
  | joinedTags (letters digits : Nat)
  | kiratE
  | kiratAi
  | letter (joining : Joining)
deriving DecidableEq, Repr

/-- How the character in front is asked to be drawn. -/
inductive Style where
  | text
  | picture
deriving DecidableEq, Repr

namespace Joining

/-- Whether ignorable marks may stand in front of the letter without separating it. -/
def passesMarks : Joining → Bool
  | .alef => false
  | _ => true

/-- The letter with a joiner in front of it. -/
def join : Joining → Joining
  | .lamed _ => .lamed true
  | .buginese _ => .buginese true
  | .tifinagh _ => .tifinagh true
  | .orkhon _ => .orkhon true
  | j => j

end Joining

namespace TextWidth

/-- Columns that a part takes, what the part in front of it has behind itself, and the style that is
asked of it. -/
structure State where
  follower : Follower := .plain
  style : Option Style := none

/-- Whether a character is drawn onto the one in front of it. The sign that joins Tifinagh consonants
has a glyph of its own unless two of them stand around it. -/
def isOverlaid (c : Char) : Bool :=
  isExtending c && !CodePoints.recent.holds c.toNat && c != '\u2d7f'

def isInvisible (c : Char) : Bool :=
  isOverlaid c || CodePoints.invisible.holds c.toNat

/-- Whether a character keeps a lam and an alef together. -/
def isTransparent (c : Char) : Bool :=
  CodePoints.joinable.holds c.toNat
    || (isOverlaid c && !CodePoints.spacing.holds c.toNat && c != '\u200c')

def canBeText (c : Char) : Bool :=
  CodePoints.styled.holds c.toNat && CodePoints.picture.holds c.toNat
    && !CodePoints.enclosedIdeographs.holds c.toNat

/-- The columns of a character by itself, and what it is to the one in front of it. -/
def alone (c : Char) : Int × Follower :=
  let n := c.toNat
  if n ≤ 0xa0 then (1, .plain)
  else if isInvisible c then (0, .plain)
  else if CodePoints.indicators.holds n then (1, .indicator)
  else if CodePoints.tones.holds n then (2, .tone)
  else if CodePoints.picture.holds n then (2, .picture)
  else if CodePoints.wide.holds n then (2, .plain)
  else if CodePoints.alefs.holds n then (1, .letter .alef)
  else if CodePoints.subjoined.holds n then (1, .letter .khmer)
  else if CodePoints.tifinagh.holds n then (1, .letter (.tifinagh false))
  else if n = 0x5dc then (1, .letter (.lamed false))
  else if n = 0x1a10 then (1, .letter (.buginese false))
  else if n = 0xa4fc ∨ n = 0xa4fd then (1, .letter .lisu)
  else if n = 0x10c03 then (1, .letter (.orkhon false))
  else if n = 0x16d67 then (1, .kiratE)
  else if n = 0x16d68 then (1, .kiratAi)
  else if n = 0x17a4 then (2, .plain)
  else if n = 0x17d8 then (3, .plain)
  else (1, .plain)

/-- A letter in front of one that it flows into: the columns that it adds, and what it is itself. -/
def beforeLetter (c : Char) (j : Joining) : Option (Int × Follower) :=
  let n := c.toNat
  match j with
  | .alef =>
    if CodePoints.lams.holds n then some (0, .plain)
    else if isTransparent c then some (0, .letter .alef)
    else none
  | .lamed joined => if joined && n = 0x5d0 then some (0, .plain) else none
  | .buginese joined => if joined && n = 0x1a17 then some (0, .letter .buginesePair) else none
  | .buginesePair => if n = 0x1a15 then some (0, .plain) else none
  | .tifinagh joined =>
    if n = 0x2d7f then some (1, .letter .tifinaghPair)
    else if joined && CodePoints.tifinagh.holds n then some (0, .plain)
    else none
  | .tifinaghPair => if CodePoints.tifinagh.holds n then some (-1, .plain) else none
  | .lisu => if 0xa4f8 ≤ n ∧ n ≤ 0xa4fb then some (0, .plain) else none
  | .orkhon joined => if joined && n = 0x10c32 then some (0, .plain) else none
  | .khmer => if n = 0x17d2 then some (-1, .plain) else none

/-- A tag of a flag in front of other tags and a joined picture. -/
def beforeTags (c : Char) (letters digits : Nat) : Option (Int × Follower) :=
  let n := c.toNat
  if 0xe0061 ≤ n ∧ n ≤ 0xe007a ∧ letters < 6 ∧ digits = 0 then
    some (0, .joinedTags (letters + 1) 0)
  else if 0xe0030 ≤ n ∧ n ≤ 0xe0039 ∧ letters ≤ 4 ∧ digits < 3 then
    some (0, .joinedTags letters (digits + 1))
  else if n = 0x1f3f4 ∧ (3 ≤ letters ∨ digits = 3) then some (0, .picture)
  else none

/-- A character in front of a joiner and a picture. -/
def beforeJoined (c : Char) : Option (Int × Follower) :=
  let n := c.toNat
  if n = 0x20e3 then some (0, .joinedPicture true)
  else if CodePoints.indicators.holds n then some (1, .joinedIndicator)
  else if CodePoints.tones.holds n then some (0, .tone)
  else if n = 0xe007f then some (0, .joinedTags 0 0)
  else if CodePoints.picture.holds n then some (0, .picture)
  else none

/-- A character whose columns depend on what is behind it: the columns that it adds, and what it is to
the one in front of it. -/
def before (c : Char) (f : Follower) : Option (Int × Follower) :=
  let n := c.toNat
  let joins := n = 0x200d
  match f with
  | .plain => none
  | .tone =>
    if joins then some (0, .joinedPicture false)
    else if CodePoints.toned.holds n then some (0, .picture)
    else none
  | .picture => if joins then some (0, .joinedPicture false) else none
  | .indicator => if CodePoints.indicators.holds n then some (1, .flag) else none
  | .flag =>
    if joins then some (0, .joinedPicture false)
    else if CodePoints.indicators.holds n then some (1, .flag)
    else none
  | .joinedPicture keycap => if keycap then none else beforeJoined c
  | .joinedIndicator => if CodePoints.indicators.holds n then some (-1, .joinedFlag false) else none
  | .joinedFlag odd =>
    if joins then some (0, .joinedPicture false)
    else if CodePoints.indicators.holds n then
      some (if odd then -1 else 3, .joinedFlag (!odd))
    else none
  | .joinedTags letters digits => beforeTags c letters digits
  | .kiratE =>
    if n = 0x16d63 ∨ n = 0x16d69 then some (0, .plain)
    else if n = 0x16d67 then some (0, .kiratAi)
    else if n = 0x16d68 then some (1, .kiratE)
    else none
  | .kiratAi => if n = 0x16d63 then some (0, .plain) else none
  | .letter j => beforeLetter c j

/-- What is left of a follower behind a selector that does not apply to the character in front. -/
def unstyled : Follower → Follower
  | .letter j => .letter j
  | _ => .plain

/-- What a selector makes of what follows it. -/
def styled (style : Style) (s : State) : State :=
  match s.follower, style with
  | .letter j, _ => { follower := .letter j, style := some style }
  | .joinedPicture keycap, .picture =>
    { follower := .joinedPicture keycap, style := some .picture }
  | _, _ => { style := some style }

def unselected (c : Char) (f : Follower) : Int × Follower :=
  let ignorable := CodePoints.ignorableMarks.holds c.toNat
  match f with
  | .letter j =>
    if j.passesMarks && ignorable then
      (0, .letter (if c = '\u200d' then j.join else j))
    else (before c f).getD (alone c)
  | _ => (before c f).getD (alone c)

/-- A character in front of what was measured: the columns that it adds, and the state with it. -/
def step (c : Char) (s : State) : Int × State :=
  let isStyled := CodePoints.styled.holds c.toNat
  match s.style with
  | some .picture =>
    if isStyled then
      ((if s.follower matches .joinedPicture _ then 0 else 2), { follower := .picture })
    else settle c (unstyled s.follower)
  | some .text =>
    if canBeText c then (1, {}) else settle c (unstyled s.follower)
  | none => settle c s.follower
where
  /-- A selector, or a character with the columns that it adds. -/
  settle (c : Char) (f : Follower) : Int × State :=
    if c = '\ufe0f' then (0, styled .picture { follower := f })
    else if c = '\ufe0e' then (0, styled .text { follower := f })
    else if c.toNat ≤ 0xa0 then (1, {})
    else
      let (columns, follower) := unselected c f
      (columns, { follower })

end TextWidth

def textWidth (s : String) : Nat :=
  let measured := s.toList.foldr
    (fun c (n, state) =>
      let (columns, state) := TextWidth.step c state
      (n + columns, state))
    ((0 : Int), ({} : TextWidth.State))
  measured.1.toNat

end TuningAdvisor
