import PreviewServer.Config
import PreviewServer.Proofs.AddressText

/-!
# Reports tell settings apart

The report of settings is one text in which other texts stand, and these may hold quotes, commas,
brackets and whole reports. It can still be taken apart from the front, because each of its parts
tells where it ends: quoted texts and lists close themselves, and addresses and numbers hold no
comma. So different settings for one directory have different reports, and along a series of changes
the reports tell which changes made a difference.

## Main definitions

* `TellsEnd`: ways to show things such that the shown form tells where it ends

## Main results

* `tellsEnd_escapeChar`: escaped characters
* `TellsEnd.flatMap`: sequences up to a mark that begins no member
* `tellsEnd_quoted`, `TellsEnd.listed`, `Policy.tellsEnd_report`: quoted texts, lists and policies
* `ServerConfig.report_inj`: a report determines the settings for a directory
* `ServerConfig.reports_tell_changes`: reports against the flags of a series of changes
-/

namespace PreviewServer

/-! ## Texts that tell where they end -/

section TellsEnd

variable {α β : Type}

/-- Whether shown forms tell where they end: with anything written behind them, two are the same
text only if they show the same thing and the same is written behind them. -/
def TellsEnd (shown : α → List Char) : Prop :=
  ∀ ⦃a b : α⦄ ⦃r s : List Char⦄, shown a ++ r = shown b ++ s → a = b ∧ r = s

/-- A mark ends two texts if its first character stands in neither of them. -/
theorem eq_of_append_mark {xs ys mark r s : List Char} {stop : Char}
    (first : mark.head? = some stop) (hx : stop ∉ xs) (hy : stop ∉ ys)
    (same : xs ++ (mark ++ r) = ys ++ (mark ++ s)) : xs = ys ∧ r = s := by
  obtain ⟨mark, rfl⟩ := List.head?_eq_some_iff.mp first
  induction xs generalizing ys with
  | nil =>
    cases ys with
    | nil => exact ⟨rfl, List.append_cancel_left same⟩
    | cons y ys =>
      obtain ⟨rfl, -⟩ := List.cons.inj same
      exact absurd List.mem_cons_self hy
  | cons x xs ih =>
    cases ys with
    | nil =>
      obtain ⟨rfl, -⟩ := List.cons.inj same
      exact absurd List.mem_cons_self hx
    | cons y ys =>
      obtain ⟨rfl, behind⟩ := List.cons.inj same
      obtain ⟨rfl, rest⟩ := ih (fun h => hx (.tail _ h)) (fun h => hy (.tail _ h)) behind
      exact ⟨rfl, rest⟩

namespace TellsEnd

variable {shown : α → List Char}

theorem comp (tells : TellsEnd shown) {f : β → α} (faithful : ∀ ⦃a b⦄, f a = f b → a = b) :
    TellsEnd fun b => shown (f b) := by
  intro a b r s same
  obtain ⟨same, rest⟩ := tells same
  exact ⟨faithful same, rest⟩

/-- A sequence ends at a mark with which no member begins. -/
theorem flatMap (tells : TellsEnd shown) {stop : Char}
    (begins : ∀ a, ∃ c cs, shown a = c :: cs ∧ c ≠ stop) :
    TellsEnd fun l : List α => l.flatMap shown ++ [stop] := by
  intro l m r s same
  rw [List.append_assoc, List.append_assoc, List.singleton_append, List.singleton_append] at same
  induction l generalizing m with
  | nil =>
    cases m with
    | nil => exact ⟨rfl, (List.cons.inj same).2⟩
    | cons b m =>
      obtain ⟨c, cs, starts, other⟩ := begins b
      rw [List.flatMap_cons, starts] at same
      exact absurd (List.cons.inj same).1.symm other
  | cons a l ih =>
    cases m with
    | nil =>
      obtain ⟨c, cs, starts, other⟩ := begins a
      rw [List.flatMap_cons, starts] at same
      exact absurd (List.cons.inj same).1 other
    | cons b m =>
      rw [List.flatMap_cons, List.flatMap_cons, List.append_assoc, List.append_assoc] at same
      obtain ⟨rfl, behind⟩ := tells same
      obtain ⟨rfl, rest⟩ := ih behind
      exact ⟨rfl, rest⟩

end TellsEnd

end TellsEnd

/-! ## Quoted texts -/

/-- The characters with a short escape, and the letters that stand for them. -/
def shortEscapes : List (Char × Char) :=
  [('"', '"'), ('\\', '\\'), ('\n', 'n'), ('\r', 'r'), ('\t', 't'), ('\x00', '0')]

/-- The three forms of a character inside quotes: itself, a letter, or its code point. -/
theorem escapeChar_cases (c : Char) :
    (escapeChar c = [c] ∧ c ≠ '"' ∧ c ≠ '\\') ∨
    (∃ letter, (c, letter) ∈ shortEscapes ∧ escapeChar c = ['\\', letter]) ∨
    escapeChar c = ['\\', 'u', '\x7b'] ++ Nat.toDigits 16 c.toNat ++ ['\x7d'] := by
  by_cases short : ∃ letter, (c, letter) ∈ shortEscapes
  · obtain ⟨letter, among⟩ := short
    refine .inr (.inl ⟨letter, among, ?_⟩)
    simp only [shortEscapes, List.mem_cons, Prod.mk.injEq, List.not_mem_nil, or_false] at among
    rcases among with ⟨rfl, rfl⟩ | ⟨rfl, rfl⟩ | ⟨rfl, rfl⟩ | ⟨rfl, rfl⟩ | ⟨rfl, rfl⟩ | ⟨rfl, rfl⟩
    all_goals rfl
  · simp only [shortEscapes, List.mem_cons, Prod.mk.injEq, List.not_mem_nil, or_false,
      exists_or, exists_eq_right, not_or] at short
    obtain ⟨quote, backslash, newline, carriage, tab, null⟩ := short
    by_cases visible : isPrintable c = true
    · exact .inl ⟨by simp [escapeChar, *], quote, backslash⟩
    · exact .inr (.inr (by simp [escapeChar, *]))

/-- No two numbers have the same hexadecimal digits. -/
theorem toDigits_sixteen_inj {m n : Nat} (same : Nat.toDigits 16 m = Nat.toDigits 16 n) :
    m = n :=
  eq_of_read_back foldlM_hexValue?_toDigits same

theorem tellsEnd_escapeChar : TellsEnd escapeChar := by
  have letters : ∀ p ∈ shortEscapes, p.2 ≠ 'u' ∧ ∀ q ∈ shortEscapes, p.2 = q.2 → p.1 = q.1 := by
    decide
  have unclosed : ∀ n, '\x7d' ∉ Nat.toDigits 16 n := by
    intro n close
    cases isSome_hexValue?_of_mem_toDigits (by decide) (by decide) close
  intro a b r s same
  rcases escapeChar_cases a with ⟨shown, -, mark⟩ | ⟨letter, among, shown⟩ | shown
  · -- A character that stands for itself is no backslash, and all escapes begin with one.
    rcases escapeChar_cases b with ⟨shown', -, -⟩ | ⟨letter', -, shown'⟩ | shown' <;>
      rw [shown, shown'] at same
    · obtain ⟨rfl, rest⟩ := List.cons.inj same
      exact ⟨rfl, rest⟩
    · exact absurd (List.cons.inj same).1 mark
    · exact absurd (List.cons.inj same).1 mark
  · -- A letter stands for one character only, and is not the one in front of code points.
    rcases escapeChar_cases b with ⟨shown', -, mark'⟩ | ⟨letter', among', shown'⟩ | shown' <;>
      rw [shown, shown'] at same
    · exact absurd (List.cons.inj same).1.symm mark'
    · obtain ⟨sameLetter, rest⟩ := List.cons.inj (List.cons.inj same).2
      exact ⟨(letters _ among).2 _ among' sameLetter, rest⟩
    · exact absurd (List.cons.inj (List.cons.inj same).2).1 (letters _ among).1
  · -- The digits of a code point end at the closing brace.
    rcases escapeChar_cases b with ⟨shown', -, mark'⟩ | ⟨letter', among', shown'⟩ | shown' <;>
      rw [shown, shown'] at same
    · exact absurd (List.cons.inj same).1.symm mark'
    · exact absurd (List.cons.inj (List.cons.inj same).2).1.symm (letters _ among').1
    · simp only [List.append_assoc, List.append_cancel_left_eq] at same
      obtain ⟨digits, rest⟩ := eq_of_append_mark rfl (unclosed _) (unclosed _) same
      exact ⟨Char.toNat_inj.mp (toDigits_sixteen_inj digits), rest⟩

/-- No shown character begins with the quote that ends the text. -/
theorem escapeChar_begins (c : Char) : ∃ d ds, escapeChar c = d :: ds ∧ d ≠ '"' := by
  rcases escapeChar_cases c with ⟨shown, quote, -⟩ | ⟨letter, -, shown⟩ | shown
  · exact ⟨c, [], shown, quote⟩
  · exact ⟨'\\', _, shown, by decide⟩
  · exact ⟨'\\', _, shown, by decide⟩

theorem tellsEnd_quoted : TellsEnd fun text => (quoted text).toList := by
  intro a b r s same
  simp only [quoted, String.toList_ofList] at same
  obtain ⟨same, rest⟩ :=
    tellsEnd_escapeChar.flatMap escapeChar_begins (List.cons.inj same).2
  exact ⟨String.toList_inj.mp same, rest⟩

theorem tellsEnd_quotedPair : TellsEnd fun p : String × String => (quotedPair p.1 p.2).toList := by
  rintro ⟨a, b⟩ ⟨a', b'⟩ r s same
  simp only [quotedPair, String.toList_append, List.append_assoc,
    List.append_cancel_left_eq] at same
  obtain ⟨rfl, second⟩ := tellsEnd_quoted same
  obtain ⟨rfl, rest⟩ := tellsEnd_quoted (List.append_cancel_left second)
  exact ⟨rfl, List.append_cancel_left rest⟩

/-! ## Lists and policies -/

theorem toList_listed_nil : (listed []).toList = ['[', ']'] := by
  rw [listed, String.intercalate_nil]
  rfl

/-- Behind the first member of a list, each member comes with a comma in front of it. -/
theorem toList_listed_cons (head : String) (tail : List String) :
    (listed (head :: tail)).toList =
      '[' :: (head.toList ++ (tail.flatMap (fun item => ", ".toList ++ item.toList) ++ [']'])) := by
  have members : (", ".intercalate (head :: tail)).toList =
      head.toList ++ tail.flatMap (fun item => ", ".toList ++ item.toList) := by
    induction tail generalizing head with
    | nil => simp
    | cons next tail ih =>
      simp only [String.intercalate_cons_cons, String.toList_append, ih, List.flatMap_cons,
        List.append_assoc]
  rw [listed, String.toList_append, String.toList_append, members, List.append_assoc,
    List.append_assoc]
  rfl

/-- A list tells where it ends if its members do and none begins with the closing bracket. -/
theorem TellsEnd.listed {α : Type} {shown : α → String} (tells : TellsEnd fun a => (shown a).toList)
    (begins : ∀ a, ∃ c cs, (shown a).toList = c :: cs ∧ c ≠ ']') :
    TellsEnd fun l : List α => (listed (l.map shown)).toList := by
  have following : TellsEnd fun a => ", ".toList ++ (shown a).toList := by
    intro a b r s same
    simp only [List.append_assoc, List.append_cancel_left_eq] at same
    exact tells same
  have comma : ∀ a, ∃ c cs, ", ".toList ++ (shown a).toList = c :: cs ∧ c ≠ ']' :=
    fun a => ⟨',', ' ' :: (shown a).toList, rfl, by decide⟩
  have closed : ∀ {a l r s}, (PreviewServer.listed ([].map shown)).toList ++ r ≠
      (PreviewServer.listed ((a :: l).map shown)).toList ++ s := by
    intro a l r s same
    obtain ⟨c, cs, starts, other⟩ := begins a
    rw [List.map_nil, toList_listed_nil, List.map_cons, toList_listed_cons, starts] at same
    exact other (List.cons.inj (List.cons.inj same).2).1.symm
  intro l m r s same
  cases l with
  | nil =>
    cases m with
    | nil => exact ⟨rfl, List.append_cancel_left same⟩
    | cons b m => exact absurd same closed
  | cons a l =>
    cases m with
    | nil => exact absurd same.symm closed
    | cons b m =>
      simp only [List.map_cons, toList_listed_cons, List.flatMap_map, List.cons_append,
        List.append_assoc (shown _).toList] at same
      obtain ⟨rfl, behind⟩ := tells (List.cons.inj same).2
      obtain ⟨rfl, rest⟩ := following.flatMap comma behind
      exact ⟨rfl, rest⟩

theorem tellsEnd_shownBool : TellsEnd fun b => (shownBool b).toList := by
  intro a b r s same
  cases a <;> cases b
  · exact ⟨rfl, List.append_cancel_left same⟩
  · cases (List.cons.inj same).1
  · cases (List.cons.inj same).1
  · exact ⟨rfl, List.append_cancel_left same⟩

theorem quotedPair_begins (a b : String) :
    ∃ c cs, (quotedPair a b).toList = c :: cs ∧ c ≠ ']' := by
  refine ⟨'(', (quoted a).toList ++ (", ".toList ++ ((quoted b).toList ++ ")".toList)), ?_, ?_⟩
  · simp [quotedPair]
  · decide

theorem FixedHeader.tellsEnd_listed : TellsEnd fun l : List FixedHeader =>
    (listed (l.map fun h => quotedPair h.name h.value)).toList := by
  have parts : ∀ ⦃g h : FixedHeader⦄, (g.name, g.value) = (h.name, h.value) → g = h := by
    rintro ⟨_, _⟩ ⟨_, _⟩ ⟨⟩
    rfl
  exact (tellsEnd_quotedPair.comp parts).listed fun h => quotedPair_begins h.name h.value

theorem TypeRule.tellsEnd_listed : TellsEnd fun l : List TypeRule =>
    (listed (l.map fun r => quotedPair r.suffix r.type)).toList := by
  have parts : ∀ ⦃q r : TypeRule⦄, (q.suffix, q.type) = (r.suffix, r.type) → q = r := by
    rintro ⟨_, _⟩ ⟨_, _⟩ ⟨⟩
    rfl
  exact (tellsEnd_quotedPair.comp parts).listed fun r => quotedPair_begins r.suffix r.type

theorem Policy.tellsEnd_report : TellsEnd fun p : Policy => p.report.toList := by
  rintro ⟨headers, types, preflight⟩ ⟨headers', types', preflight'⟩ r s same
  delta Policy.report at same
  simp only [String.toList_append, List.append_assoc, List.append_cancel_left_eq] at same
  obtain ⟨rfl, behind⟩ := FixedHeader.tellsEnd_listed same
  obtain ⟨rfl, behind'⟩ := TypeRule.tellsEnd_listed (List.append_cancel_left behind)
  obtain ⟨rfl, rest⟩ := tellsEnd_shownBool (List.append_cancel_left behind')
  exact ⟨rfl, List.append_cancel_left rest⟩

/-! ## Settings -/

theorem Port.text_injective {p q : Port} (same : p.text = q.text) : p = q :=
  eq_of_read_back Port.ofText?_text same

theorem Port.mem_text {p : Port} {c : Char} (hc : c ∈ p.text.toList) :
    (hexValue? c).isSome = true := by
  rw [Port.text, decimal, String.toList_ofList] at hc
  exact isSome_hexValue?_of_mem_toDigits (by decide) (by decide) hc

theorem Port.comma_not_mem_text (p : Port) : ',' ∉ p.text.toList := by
  intro comma
  cases Port.mem_text comma

theorem IpAddress.comma_not_mem_text (x : IpAddress) : ',' ∉ x.text.toList := by
  intro comma
  rcases IpAddress.mem_text comma with ⟨⟨⟩⟩ | ⟨⟨⟩⟩ | ⟨⟨⟩⟩

/-- **A report determines the settings** for a directory. -/
theorem ServerConfig.report_inj {c d : ServerConfig} (roots : c.root = d.root) :
    c.report = d.report ↔ c = d := by
  refine ⟨fun same => ?_, congrArg _⟩
  obtain ⟨root, host, port, policy⟩ := c
  obtain ⟨_, host', port', policy'⟩ := d
  obtain rfl : root = _ := roots
  delta ServerConfig.report at same
  have texts := congrArg String.toList same
  simp only [String.toList_append, List.append_assoc, List.append_cancel_left_eq] at texts
  obtain ⟨hosts, afterHost⟩ := eq_of_append_mark rfl host.comma_not_mem_text
    host'.comma_not_mem_text texts
  obtain rfl := IpAddress.text_injective (String.toList_inj.mp hosts)
  obtain ⟨ports, afterPort⟩ := eq_of_append_mark rfl port.comma_not_mem_text
    port'.comma_not_mem_text afterHost
  obtain rfl := Port.text_injective (String.toList_inj.mp ports)
  obtain ⟨rfl, -⟩ := Policy.tellsEnd_report afterPort
  rfl

/-! ## Series of changes -/

theorem ServerConfig.root_change (c : ServerConfig) (d : ConfigChange) :
    (c.change d).root = c.root := by
  rw [ServerConfig.change_eq]

/-- A change makes a difference exactly if the report before it is not the one after it. -/
theorem ServerConfig.report_change_ne_iff (c : ServerConfig) (d : ConfigChange) :
    (c.change d).report ≠ c.report ↔ c.change d ≠ c :=
  not_congr (ServerConfig.report_inj (c.root_change d))

theorem ServerConfig.length_statesFrom (initial current : ServerConfig)
    (changes : List ConfigChange) :
    (initial.statesFrom current changes).length = changes.length := by
  induction changes generalizing current with
  | nil => rfl
  | cons d changes ih => exact congrArg (· + 1) (ih _)

/-- Each change leads from one state of a series to the next one, which is marked as changed exactly
if the reports differ. -/
theorem ServerConfig.exists_states_of_getElem? (initial : ServerConfig)
    {changes : List ConfigChange} {i : Nat} {d : ConfigChange} (step : changes[i]? = some d)
    (state : ConfigState) :
    ∃ before after,
      (state :: initial.statesFrom state.config changes)[i]? = some before ∧
      (state :: initial.statesFrom state.config changes)[i + 1]? = some after ∧
      after.config = before.config.change d ∧
      (after.changed = true ↔ after.config.report ≠ before.config.report) := by
  -- Along the changes; behind the first one, the series goes on from the state it led to.
  induction changes generalizing state i with
  | nil => cases step
  | cons d' changes ih =>
    cases i with
    | zero =>
      obtain rfl := Option.some.inj step
      refine ⟨state, _, rfl, rfl, rfl, ?_⟩
      rw [ServerConfig.report_change_ne_iff]
      exact decide_eq_true_iff
    | succ i => exact ih step _

/-- A state of a series is marked as the default exactly if its report is the initial one: the
directory is the same all along. -/
theorem ServerConfig.isDefault_of_mem_statesFrom {initial current : ServerConfig}
    {changes : List ConfigChange} (roots : current.root = initial.root) {state : ConfigState}
    (among : state ∈ initial.statesFrom current changes) :
    state.isDefault = true ↔ state.config.report = initial.report := by
  induction changes generalizing current with
  | nil => cases among
  | cons d changes ih =>
    have roots' : (current.change d).root = initial.root := (current.root_change d).trans roots
    rcases List.mem_cons.mp among with rfl | among
    · rw [ServerConfig.report_inj roots']
      exact decide_eq_true_iff
    · exact ih roots' among

/-- **Reports tell settings and changes.** Settings for one directory have the same report exactly
if they are the same. So in every series of changes, a state is marked as changed exactly if its
report is not that of the state before it, and as the default exactly if its report is the first. -/
theorem ServerConfig.reports_tell_changes :
    (∀ c d : ServerConfig, c.root = d.root → (c.report = d.report ↔ c = d)) ∧
    ∀ (initial : ServerConfig) (changes : List ConfigChange),
      (initial.states changes).length = changes.length + 1 ∧
      (initial.states changes)[0]? = some ⟨initial, false, true⟩ ∧
      (∀ i d, changes[i]? = some d → ∃ before after,
        (initial.states changes)[i]? = some before ∧
        (initial.states changes)[i + 1]? = some after ∧
        after.config = before.config.change d ∧
        (after.changed = true ↔ after.config.report ≠ before.config.report)) ∧
      ∀ state ∈ initial.states changes,
        (state.isDefault = true ↔ state.config.report = initial.report) := by
  refine ⟨fun c d roots => ServerConfig.report_inj roots, fun initial changes => ⟨?_, rfl, ?_, ?_⟩⟩
  · exact congrArg (· + 1) (initial.length_statesFrom initial changes)
  · intro i d step
    exact initial.exists_states_of_getElem? step ⟨initial, false, true⟩
  · intro state among
    rcases List.mem_cons.mp among with rfl | among
    · exact iff_of_true rfl rfl
    · exact ServerConfig.isDefault_of_mem_statesFrom rfl among

/-- A change to two fixed headers. -/
def twoHeaders : ConfigChange := ⟨none, none, some ⟨[⟨"a", "b"⟩, ⟨"c", "d"⟩], [], true⟩⟩

/-- A change to one header whose value, if it were not escaped, would close its quotes and be shown
as two headers. -/
def imitatedHeaders : ConfigChange :=
  ⟨none, none, some ⟨[⟨"a", "b\"), (\"c\", \"d"⟩], [], true⟩⟩

/-- The imitation has a report of its own, making the same change again changes no report, and no
report but the first is the first one. -/
theorem ServerConfig.reports_tell_changes_imitatedHeaders :
    ((ServerConfig.default "site").change twoHeaders).report ≠
      ((ServerConfig.default "site").change imitatedHeaders).report ∧
    (∃ before after,
      ((ServerConfig.default "site").states [imitatedHeaders, imitatedHeaders])[1]? = some before ∧
      ((ServerConfig.default "site").states [imitatedHeaders, imitatedHeaders])[2]? = some after ∧
      after.config.report = before.config.report) ∧
    ((ServerConfig.default "site").change imitatedHeaders).report ≠
      (ServerConfig.default "site").report := by
  obtain ⟨tell, series⟩ := ServerConfig.reports_tell_changes
  obtain ⟨-, -, changed, first⟩ :=
    series (ServerConfig.default "site") [imitatedHeaders, imitatedHeaders]
  refine ⟨?_, ?_, ?_⟩
  · rw [ne_eq, tell]
    · decide
    · rfl
  · obtain ⟨before, after, atBefore, atAfter, -, differs⟩ := changed 1 imitatedHeaders rfl
    obtain rfl := Option.some.inj atAfter
    refine ⟨before, _, atBefore, atAfter, ?_⟩
    exact Decidable.not_not.mp (mt differs.mpr (by decide))
  · intro same
    cases (first ⟨_, true, false⟩ (.tail _ (.head _))).mpr same

end PreviewServer
