import Mathlib.Data.List.Forall2
import Palette.Proofs.Theme.Compiling

/-!
# The account of a theme's leaves

`Accounts` says what becomes of the leaves of a theme, one leaf at a time: a leaf that
can be read adds its declaration to the lines, any other leaf adds its warning to the
warnings, and no rule adds to both or to neither.  It does not mention how a rule is
compiled.

The rule of a theme has exactly the lines and warnings of its leaves, between what the
name and the scheme contribute (`Block.Consists`, `consists_of_block`).  Since `Accounts`
goes along the leaves and reads nothing else, a change of the scheme leaves the account
as it is, and a change of one leaf changes the account of this leaf alone
(`Accounts.append`).
-/

namespace Palette

/-- The leaves give these lines and these warnings. -/
inductive Accounts (options : Options) : List Leaf → List String → List String → Prop
  | done : Accounts options [] [] []
  | declared {leaf : Leaf} {leaves : List Leaf} {lines warnings : List String} {color : String} :
      Color.resolveValue leaf.color (.ofName options.format) = .ok color →
      Accounts options leaves lines warnings →
      Accounts options (leaf :: leaves)
        (("  " ++ options.propertyName leaf.token ++ ": " ++ color ++ ";") :: lines) warnings
  | warned {leaf : Leaf} {leaves : List Leaf} {lines warnings : List String} :
      (∀ color, Color.resolveValue leaf.color (.ofName options.format) ≠ .ok color) →
      Accounts options leaves lines warnings →
      Accounts options (leaf :: leaves) lines
        (("Invalid color: " ++ leaf.color.display ++ " for " ++ leaf.location) :: warnings)

/-- The rule has these lines between its name and scheme and its end, and these warnings
behind the one on its scheme. -/
structure Block.Consists (block : Block) (name : String) (scheme : Option String)
    (lines warnings : List String) : Prop where
  text : block.text = String.intercalate "\n" (("." ++ name ++ " \x7b") ::
    ((Scheme.read scheme).declaration?.toList.map fun declaration => "  " ++ declaration) ++
    lines ++ ["\x7d"])
  warnings : block.warnings = ((Scheme.read scheme).warning? name).toList ++ warnings

namespace Accounts

variable {options : Options} {leaves : List Leaf} {lines warnings : List String}

/-! ## One account for all leaves -/

theorem append {first second : List Leaf} {firstLines secondLines : List String}
    {firstWarnings secondWarnings : List String}
    (hfirst : Accounts options first firstLines firstWarnings)
    (hsecond : Accounts options second secondLines secondWarnings) :
    Accounts options (first ++ second) (firstLines ++ secondLines)
      (firstWarnings ++ secondWarnings) := by
  induction hfirst with
  | done => exact hsecond
  | declared hcolor _ ih => exact declared hcolor ih
  | warned hcolor _ ih => exact warned hcolor ih

/-- Every list of leaves has an account. -/
theorem exists_of_leaves (options : Options) (leaves : List Leaf) :
    ∃ lines warnings, Accounts options leaves lines warnings := by
  induction leaves with
  | nil => exact ⟨[], [], done⟩
  | cons leaf leaves ih =>
      obtain ⟨lines, warnings, hrest⟩ := ih
      by_cases hcolor : ∃ color, Color.resolveValue leaf.color (.ofName options.format) = .ok color
      · obtain ⟨color, hcolor⟩ := hcolor
        exact ⟨_, _, declared hcolor hrest⟩
      · exact ⟨_, _, warned (not_exists.1 hcolor) hrest⟩

/-- The lines and warnings of leaves are the expected ones. -/
theorem eq_expected (haccount : Accounts options leaves lines warnings) :
    lines = leaves.filterMap (Leaf.declaration? options) ∧
      warnings = (leaves.filter fun leaf => ¬ leaf.IsReadable).map Leaf.warning := by
  induction haccount with
  | done => exact ⟨rfl, rfl⟩
  | @declared leaf leaves lines warnings color hcolor _ ih =>
      have hread : leaf.IsReadable := (leaf.exists_resolveValue_iff _).1 ⟨color, hcolor⟩
      have hline : leaf.declaration? options = some (leaf.line options color) := by
        rw [Leaf.declaration?, hcolor]
        rfl
      rw [List.filterMap_cons_some hline, List.filter_cons_of_neg (by simpa using hread)]
      exact ⟨by rw [ih.1]; rfl, ih.2⟩
  | @warned leaf leaves lines warnings hcolor _ ih =>
      have hread : ¬ leaf.IsReadable := by
        rw [← leaf.exists_resolveValue_iff (.ofName options.format)]
        exact not_exists.2 hcolor
      have hline : leaf.declaration? options = none :=
        (leaf.declaration?_eq_none_iff options).2 hread
      rw [List.filterMap_cons_none hline, List.filter_cons_of_pos (by simpa using hread)]
      exact ⟨ih.1, by rw [ih.2]; rfl⟩

/-- Leaves have one account. -/
theorem unique {others reports : List String} (haccount : Accounts options leaves lines warnings)
    (hother : Accounts options leaves others reports) : lines = others ∧ warnings = reports := by
  obtain ⟨hlines, hwarnings⟩ := haccount.eq_expected
  obtain ⟨hothers, hreports⟩ := hother.eq_expected
  exact ⟨hlines.trans hothers.symm, hwarnings.trans hreports.symm⟩

theorem length_add_length (haccount : Accounts options leaves lines warnings) :
    lines.length + warnings.length = leaves.length := by
  induction haccount with
  | done => rfl
  | declared _ _ ih =>
      rw [List.length_cons, List.length_cons]
      omega
  | warned _ _ ih =>
      rw [List.length_cons, List.length_cons]
      omega

/-- The leaves with lines and those with warnings make up all leaves, each in order. -/
theorem exists_sublists (haccount : Accounts options leaves lines warnings) :
    ∃ kept left : List Leaf, kept.Sublist leaves ∧ left.Sublist leaves ∧
      (kept ++ left).Perm leaves ∧
      List.Forall₂ (fun leaf line => ∃ color,
        Color.resolveValue leaf.color (.ofName options.format) = .ok color ∧
          line = leaf.line options color) kept lines ∧
      List.Forall₂ (fun leaf warning =>
        (∀ color, Color.resolveValue leaf.color (.ofName options.format) ≠ .ok color) ∧
          warning = leaf.warning) left warnings := by
  induction haccount with
  | done => exact ⟨[], [], .slnil, .slnil, .nil, .nil, .nil⟩
  | @declared leaf leaves lines warnings color hcolor _ ih =>
      obtain ⟨kept, left, hkept, hleft, hperm, hlines, hwarnings⟩ := ih
      exact ⟨leaf :: kept, left, hkept.cons_cons leaf, hleft.cons leaf, hperm.cons leaf,
        .cons ⟨color, hcolor, rfl⟩ hlines, hwarnings⟩
  | @warned leaf leaves lines warnings hcolor _ ih =>
      obtain ⟨kept, left, hkept, hleft, hperm, hlines, hwarnings⟩ := ih
      have hmiddle : (kept ++ leaf :: left).Perm (leaf :: leaves) :=
        List.perm_middle.trans (hperm.cons leaf)
      exact ⟨kept, leaf :: left, hkept.cons leaf, hleft.cons_cons leaf, hmiddle, hlines,
        .cons ⟨hcolor, rfl⟩ hwarnings⟩

end Accounts

namespace Theme

variable {options : Options} {lines warnings : List String}

/-! ## The rule of a theme -/

/-- A rule consists of the account of the leaves. -/
theorem consists_of_block {theme : Theme} {result : Block}
    (hblock : block options theme = .ok result)
    (haccount : Accounts options theme.leaves lines warnings) :
    result.Consists theme.name theme.scheme lines warnings := by
  obtain ⟨-, rfl⟩ := (block_eq_ok_iff ..).1 hblock
  obtain ⟨rfl, rfl⟩ := haccount.eq_expected
  exact ⟨rfl, rfl⟩

/-- Another scheme neither makes a rule fail nor changes the account of its leaves. -/
theorem exists_block_of_scheme {theme : Theme} {result : Block}
    (hblock : block options theme = .ok result) (scheme : Option String) :
    ∃ other, block options { theme with scheme } = .ok other := by
  obtain ⟨hsettled, -⟩ := (block_eq_ok_iff ..).1 hblock
  exact ⟨_, (block_eq_ok_iff ..).2 ⟨hsettled, rfl⟩⟩

/-- Where one leaf of a theme is made unreadable, its line is gone and its warning is
there; all else stays. -/
theorem consists_of_unreadable {theme : Theme} {before after : List Leaf} {leaf : Leaf}
    {result : Block} (hleaves : theme.leaves = before ++ leaf :: after)
    (hcolor : ∀ written, Color.resolveValue leaf.color (.ofName options.format) ≠ .ok written)
    (hblock : block options theme = .ok result)
    {first last firstWarnings lastWarnings : List String}
    (hbefore : Accounts options before first firstWarnings)
    (hafter : Accounts options after last lastWarnings) :
    result.Consists theme.name theme.scheme (first ++ last)
      (firstWarnings ++ leaf.warning :: lastWarnings) := by
  refine consists_of_block hblock ?_
  rw [hleaves]
  exact hbefore.append (hafter.warned hcolor)

/-- In a rule every leaf is accounted for once and in order, by a line or by a warning.
The account is the same under every scheme; and in another theme of the same name and
scheme that differs in the color of one leaf alone, where this color cannot be read, all
other leaves have the lines and warnings that they have here. -/
theorem block_accounts {options : Options} {theme : Theme} {result : Block}
    (hblock : block options theme = .ok result) :
    ∃ lines warnings, Accounts options theme.leaves lines warnings ∧
      result.Consists theme.name theme.scheme lines warnings ∧
      lines.length + warnings.length = theme.leaves.length ∧
      (∃ kept left : List Leaf, kept.Sublist theme.leaves ∧ left.Sublist theme.leaves ∧
        (kept ++ left).Perm theme.leaves ∧
        List.Forall₂ (fun leaf line => ∃ color,
          Color.resolveValue leaf.color (.ofName options.format) = .ok color ∧
            line = leaf.line options color) kept lines ∧
        List.Forall₂ (fun leaf warning =>
          (∀ color, Color.resolveValue leaf.color (.ofName options.format) ≠ .ok color) ∧
            warning = leaf.warning) left warnings) ∧
      (∀ scheme, ∃ other, block options { theme with scheme } = .ok other ∧
        other.Consists theme.name scheme lines warnings) ∧
      ∀ (before after : List Leaf) (leaf : Leaf), theme.leaves = before ++ leaf :: after →
        ∃ first own last firstWarnings ownWarnings lastWarnings,
          Accounts options before first firstWarnings ∧
          Accounts options [leaf] own ownWarnings ∧
          Accounts options after last lastWarnings ∧
          lines = first ++ own ++ last ∧
          warnings = firstWarnings ++ ownWarnings ++ lastWarnings ∧
          ∀ (color : Value) (edited : Theme) (other : Block),
            (∀ written, Color.resolveValue color (.ofName options.format) ≠ .ok written) →
            edited.name = theme.name → edited.scheme = theme.scheme →
            edited.leaves = before ++ { leaf with color } :: after →
            block options edited = .ok other →
            other.Consists theme.name theme.scheme (first ++ last)
              (firstWarnings ++ { leaf with color }.warning :: lastWarnings) := by
  obtain ⟨lines, warnings, haccount⟩ := Accounts.exists_of_leaves options theme.leaves
  refine ⟨lines, warnings, haccount, consists_of_block hblock haccount,
    haccount.length_add_length, haccount.exists_sublists, fun scheme => ?_,
    fun before after leaf hleaves => ?_⟩
  · obtain ⟨other, hother⟩ := exists_block_of_scheme hblock scheme
    exact ⟨other, hother, consists_of_block hother haccount⟩
  · obtain ⟨first, firstWarnings, hbefore⟩ := Accounts.exists_of_leaves options before
    obtain ⟨own, ownWarnings, hown⟩ := Accounts.exists_of_leaves options [leaf]
    obtain ⟨last, lastWarnings, hafter⟩ := Accounts.exists_of_leaves options after
    have hparts : Accounts options theme.leaves (first ++ own ++ last)
        (firstWarnings ++ ownWarnings ++ lastWarnings) := by
      rw [hleaves, ← List.singleton_append, ← List.append_assoc]
      exact (hbefore.append hown).append hafter
    obtain ⟨hlines, hwarnings⟩ := haccount.unique hparts
    refine ⟨first, own, last, firstWarnings, ownWarnings, lastWarnings, hbefore, hown, hafter,
      hlines, hwarnings, fun color edited other hcolor hname hscheme hedited hother => ?_⟩
    rw [← hname, ← hscheme]
    exact consists_of_unreadable hedited hcolor hother hbefore hafter

/-- A theme with a token that occurs twice, a shade that stands for its token, and colors
of both kinds between each other. -/
def mixedTheme : Theme where
  name := "t"
  scheme := some "Dark"
  tokens := [("a", .flat (.text "red")),
    ("b", .shaded [("DEFAULT", .text "nope"), ("50", .text "#abc")]),
    ("a", .flat (.text "rgb(1, 2)"))]

theorem block_mixedTheme :
    block {} mixedTheme = .ok ⟨".t \x7b\n  color-scheme: dark;\n  --a: #ff0000;\n" ++
        "  --b-50: #aabbcc;\n\x7d",
      ["Invalid color: nope for t.b.DEFAULT", "Invalid color: rgb(1, 2) for t.a"]⟩ := rfl

/-- The four leaves of this theme have one account, and its rule consists of it under this
scheme and under none. -/
theorem block_accounts_mixedTheme :
    ∃ result, block {} mixedTheme = .ok result ∧
      result.text = ".t \x7b\n  color-scheme: dark;\n  --a: #ff0000;\n  --b-50: #aabbcc;\n\x7d" ∧
      ∃ lines warnings, Accounts {} mixedTheme.leaves lines warnings ∧
        result.Consists "t" (some "Dark") lines warnings ∧ lines.length + warnings.length = 4 ∧
        ∃ other, block {} { mixedTheme with scheme := none } = .ok other ∧
          other.Consists "t" none lines warnings := by
  obtain ⟨lines, warnings, haccount, hconsists, hlength, -, hscheme, -⟩ :=
    block_accounts block_mixedTheme
  exact ⟨_, block_mixedTheme, rfl, lines, warnings, haccount, hconsists, hlength, hscheme none⟩

end Theme

end Palette
