import Gb28181.Lib.Quoted

/-! `__osip_quote_find` in `osip_port.c`: the next quote that is not escaped. -/

namespace Gb28181.Osip

open Gb28181.Lib

/-- `strchr` from an offset of a C string. -/
def strchr (text : Text) (char : Char) (start : Nat) : Option Nat :=
  ((text.drop start).findIdx? (· = char)).map (start + ·)

/-- The variables of the loop, as offsets: `quote - i` is looked at next. -/
structure QuoteScan where
  qstring : Nat
  quote : Nat
  i : Nat

/-- Go on with the next quote, or give up. -/
def nextQuote (text : Text) (qstring quote : Nat) : Except (Option Nat) QuoteScan :=
  match strchr text '"' (quote + 1) with
  | some quote => .ok ⟨qstring, quote, 1⟩
  | none => .error none

/-- One round of the loop: it goes on, or the function returns. -/
def QuoteScan.round (text : Text) (scan : QuoteScan) : Except (Option Nat) QuoteScan := do
  let scan ←
    if text[scan.quote - scan.i]? = some '\\' then .ok { scan with i := scan.i + 1 }
    else if scan.i % 2 = 1 then .error (some scan.quote)
    else nextQuote text scan.qstring scan.quote
  if scan.quote + 1 = scan.qstring + scan.i then
    let i := if text[scan.qstring]? = some '\\' then scan.i + 1 else scan.i
    if i % 2 = 0 then .error (some scan.quote)
    else nextQuote text (scan.quote + 1) scan.quote
  else .ok scan

def quoteLoop (text : Text) : Nat → QuoteScan → Option Nat
  | 0, _ => none
  | fuel + 1, scan =>
    match scan.round text with
    | .ok scan => quoteLoop text fuel scan
    | .error found => found

def quoteRounds (text : Text) : Nat := (text.length + 1) * (text.length + 2)

/-- `__osip_quote_find`, for the part of a C string from an offset on. -/
def quoteFind (text : Text) (qstring : Nat) : Option Nat :=
  match strchr text '"' qstring with
  | none => none
  | some quote =>
    if quote = qstring then some quote
    else quoteLoop text (quoteRounds text) ⟨qstring, quote, 1⟩

variable {text : Text} {start : Nat} {char : Char} {found : Option Nat} {scan : QuoteScan}

theorem strchr_spec (text : Text) (char : Char) (start : Nat) :
    FirstFrom (isChar text char) start (strchr text char start) := by
  unfold strchr
  cases search : (text.drop start).findIdx? (· = char) with
  | none =>
    intro position above
    have missing := List.findIdx?_eq_none_iff.mp search
    refine decide_eq_false fun here => ?_
    have member : char ∈ text.drop start := by
      refine List.mem_of_getElem? (i := position - start) ?_
      rw [List.getElem?_drop, Nat.add_sub_cancel' above]
      exact here
    simpa using missing char member
  | some offset =>
    obtain ⟨inside, here, earlier⟩ := List.findIdx?_eq_some_iff_getElem.mp search
    refine ⟨Nat.le_add_right _ _, ?_, fun position low high => ?_⟩
    · have same : (text.drop start)[offset]? = some (text.drop start)[offset] :=
        List.getElem?_eq_getElem inside
      rw [List.getElem?_drop] at same
      rw [decide_eq_true_eq] at here
      rw [isChar, decide_eq_true_eq, same, here]
    · refine decide_eq_false fun same => ?_
      have before : position - start < offset := Nat.sub_lt_left_of_lt_add low high
      have other := earlier (position - start) before
      have here : (text.drop start)[position - start]? = some char := by
        rw [List.getElem?_drop, Nat.add_sub_cancel' low]
        exact same
      rw [List.getElem?_eq_getElem (before.trans inside)] at here
      simp [Option.some.inj here] at other

/-- Quotes in front of the next one that is found do not count. -/
theorem plain_of_strchr {quote : Nat}
    (next : FirstFrom (isChar text '"') start (some quote)) :
    ∀ place, start ≤ place → place < quote → isQuote text place = false := by
  intro place low high
  rw [isQuote, next.2.2 place low high, Bool.false_and]

/-- What the loop knows: the backslashes that were counted, and that no quote in front counts. -/
structure QuoteScan.Stands (text : Text) (start : Nat) (scan : QuoteScan) : Prop where
  above : scan.qstring ≤ scan.quote
  low : start ≤ scan.qstring
  char : text[scan.quote]? = some '"'
  clean : escaped text scan.qstring = false
  counted : 1 ≤ scan.i
  room : scan.qstring = scan.quote ∧ scan.i = 1 ∧ text[scan.quote - 1]? ≠ some '\\' ∨
    scan.qstring + scan.i ≤ scan.quote
  run : ∀ place, scan.quote + 1 ≤ place + scan.i → place < scan.quote →
    text[place]? = some '\\'
  plain : ∀ place, start ≤ place → place < scan.quote → isQuote text place = false

def QuoteScan.left (text : Text) (scan : QuoteScan) : Nat :=
  (text.length - scan.quote) * (text.length + 2) + (scan.quote + 1 - scan.i)

/-- The function returns the first quote that counts, or goes on. -/
def Returns (text : Text) (start left : Nat) : Except (Option Nat) QuoteScan → Prop
  | .ok scan => scan.Stands text start ∧ scan.left text < left
  | .error found => FirstFrom (isQuote text) start found

theorem QuoteScan.Stands.inside (stands : scan.Stands text start) :
    scan.quote < text.length :=
  (List.getElem?_eq_some_iff.mp stands.char).1

theorem left_lt {next : QuoteScan} (later : scan.quote < next.quote)
    (inside : next.quote < text.length) (counted : 1 ≤ next.i) :
    next.left text < scan.left text := by
  unfold QuoteScan.left
  have fewer : text.length - next.quote + 1 ≤ text.length - scan.quote := by omega
  have product := Nat.mul_le_mul_right (text.length + 2) fewer
  rw [Nat.add_mul, Nat.one_mul] at product
  omega

/-- The next quote, where the one before does not count. -/
theorem nextQuote_returns {qstring quote : Nat} (stands : scan.Stands text start)
    (same : quote = scan.quote) (low : start ≤ qstring) (clean : escaped text qstring = false)
    (skipped : isQuote text quote = false)
    (near : qstring ≤ quote + 1) :
    Returns text start (scan.left text) (nextQuote text qstring quote) := by
  subst same
  have next := strchr_spec text '"' (scan.quote + 1)
  unfold nextQuote
  have past (place : Nat) (above : start ≤ place) (below : place < scan.quote + 1) :
      isQuote text place = false := by
    rcases Nat.eq_or_lt_of_le (Nat.le_of_lt_succ below) with here | before
    · exact here ▸ skipped
    · exact stands.plain place above before
  cases search : strchr text '"' (scan.quote + 1) with
  | none =>
    rw [search] at next
    intro place above
    rcases Nat.lt_or_ge place (scan.quote + 1) with before | behind
    · exact past place above before
    · rw [isQuote, next place behind, Bool.false_and]
  | some quote =>
    rw [search] at next
    have char : text[quote]? = some '"' := of_decide_eq_true next.2.1
    have inside := (List.getElem?_eq_some_iff.mp char).1
    have later : scan.quote < quote := next.1
    refine ⟨⟨near.trans later, low, char, clean, Nat.le_refl 1, ?_, ?_, ?_⟩,
      left_lt later inside (Nat.le_refl 1)⟩
    · rcases Nat.eq_or_lt_of_le (near.trans later) with here | before
      · have adjacent : quote - 1 = scan.quote := by omega
        refine .inl ⟨here, rfl, ?_⟩
        dsimp only
        rw [adjacent, stands.char]
        decide
      · exact .inr before
    · intro place high low
      dsimp only at high low
      omega
    · intro place above below
      rcases Nat.lt_or_ge place (scan.quote + 1) with before | behind
      · exact past place above before
      · exact plain_of_strchr next place behind below

theorem nextQuote_ok {qstring quote : Nat} {later : QuoteScan}
    (went : nextQuote text qstring quote = .ok later) :
    later.qstring = qstring ∧ later.i = 1 ∧ quote < later.quote := by
  unfold nextQuote at went
  have next := strchr_spec text '"' (quote + 1)
  cases search : strchr text '"' (quote + 1) with
  | none =>
    rw [search] at went
    cases went
  | some second =>
    rw [search] at went next
    rw [← Except.ok.inj went]
    exact ⟨rfl, rfl, next.1⟩

/-- A run of backslashes in front of a quote decides whether it counts. -/
theorem isQuote_run {quote count : Nat} (char : text[quote]? = some '"') {qstring : Nat}
    (clean : escaped text qstring = false) (behind : quote = qstring + count)
    (run : ∀ place, qstring ≤ place → place < quote → text[place]? = some '\\') :
    isQuote text quote = decide (count % 2 = 0) := by
  subst behind
  have parity := escaped_run clean run
  rw [isQuote, isChar, decide_eq_true char, Bool.true_and, parity]
  rcases Nat.mod_two_eq_zero_or_one count with even | odd
  · simp [even]
  · simp [odd]

theorem found_quote {quote : Nat} (stands : scan.Stands text start) (same : quote = scan.quote)
    (counts : isQuote text quote = true) : FirstFrom (isQuote text) start (some quote) := by
  subst same
  exact ⟨stands.low.trans stands.above, counts, stands.plain⟩

theorem round_other (stands : scan.Stands text start)
    (other : text[scan.quote - scan.i]? ≠ some '\\') :
    Returns text start (scan.left text) (scan.round text) := by
  obtain ⟨above, low, char, clean, counted, room, run, plain⟩ := stands
  have counts : isQuote text scan.quote = decide ((scan.i - 1) % 2 = 0) := by
    rcases room with ⟨here, first, -⟩ | room
    · exact isQuote_run char clean (by omega) fun place high low => by omega
    · have before : scan.quote - (scan.i - 1) = scan.quote - scan.i + 1 := by omega
      have behind : scan.quote = scan.quote - (scan.i - 1) + (scan.i - 1) := by omega
      refine isQuote_run char ?_ behind fun place high low => run place (by omega) low
      rw [before, escaped_succ, decide_eq_false other, Bool.false_and]
  unfold QuoteScan.round
  rw [if_neg other]
  by_cases odd : scan.i % 2 = 1
  · rw [if_pos odd]
    refine found_quote ⟨above, low, char, clean, counted, room, run, plain⟩ rfl ?_
    rw [counts, decide_eq_true_eq]
    omega
  · rw [if_neg odd]
    have next := nextQuote_returns ⟨above, low, char, clean, counted, room, run, plain⟩ rfl low
      clean (by rw [counts, decide_eq_false_iff_not]; omega) (above.trans (Nat.le_succ _))
    cases went : nextQuote text scan.qstring scan.quote with
    | error found =>
      rw [went] at next
      exact next
    | ok later =>
      rw [went] at next
      obtain ⟨qstring, first, behind⟩ := nextQuote_ok went
      have more : later.quote + 1 ≠ later.qstring + later.i := by omega
      refine (?_ : Returns text start (scan.left text)
        (if later.quote + 1 = later.qstring + later.i then _ else .ok later))
      rw [if_neg more]
      exact next

theorem round_backslash (stands : scan.Stands text start)
    (here : text[scan.quote - scan.i]? = some '\\') :
    Returns text start (scan.left text) (scan.round text) := by
  obtain ⟨above, low, char, clean, counted, room, run, plain⟩ := stands
  have room : scan.qstring + scan.i ≤ scan.quote := by
    rcases room with ⟨-, first, other⟩ | room
    · rw [first] at here
      exact absurd here other
    · exact room
  have longer (place : Nat) (high : scan.quote ≤ place + scan.i) (less : place < scan.quote) :
      text[place]? = some '\\' := by
    rcases Nat.eq_or_lt_of_le high with same | inside
    · rw [show place = scan.quote - scan.i by omega]
      exact here
    · exact run place inside less
  unfold QuoteScan.round
  rw [if_pos here]
  dsimp only [bind, Except.bind]
  by_cases all : scan.quote + 1 = scan.qstring + (scan.i + 1)
  · have counts : isQuote text scan.quote = decide (scan.i % 2 = 0) :=
      isQuote_run char clean (by omega) fun place high less => longer place (by omega) less
    have first : text[scan.qstring]? = some '\\' := longer scan.qstring (by omega) (by omega)
    rw [if_pos all, if_pos first]
    by_cases even : (scan.i + 1 + 1) % 2 = 0
    · rw [if_pos even]
      refine found_quote ⟨above, low, char, clean, counted, .inr room, run, plain⟩ rfl ?_
      rw [counts, decide_eq_true_eq]
      omega
    · rw [if_neg even]
      refine nextQuote_returns ⟨above, low, char, clean, counted, .inr room, run, plain⟩ rfl
        (low.trans (above.trans (Nat.le_succ _))) (escaped_behind char (by decide)) ?_
        (Nat.le_refl _)
      rw [counts, decide_eq_false_iff_not]
      omega
  · rw [if_neg all]
    refine ⟨⟨above, low, char, clean, Nat.le_succ_of_le counted, .inr ?_, ?_, plain⟩, ?_⟩
    · dsimp only
      omega
    · exact fun place high less => longer place (by dsimp only at high; omega) less
    · unfold QuoteScan.left
      dsimp only
      omega

theorem round_returns (stands : scan.Stands text start) :
    Returns text start (scan.left text) (scan.round text) := by
  by_cases here : text[scan.quote - scan.i]? = some '\\'
  · exact round_backslash stands here
  · exact round_other stands here

theorem quoteLoop_spec (stands : scan.Stands text start) {fuel : Nat}
    (enough : scan.left text < fuel) :
    FirstFrom (isQuote text) start (quoteLoop text fuel scan) := by
  induction fuel generalizing scan with
  | zero => exact absurd enough (Nat.not_lt_zero _)
  | succ fuel ih =>
    have returns := round_returns stands
    unfold quoteLoop
    cases went : scan.round text with
    | error found =>
      rw [went] at returns
      exact returns
    | ok next =>
      rw [went] at returns
      exact ih returns.1 (Nat.lt_of_lt_of_le returns.2 (Nat.le_of_lt_succ enough))

/-- From where no backslash stands in front, the function finds the next quote that counts. -/
theorem quoteFind_spec (clean : escaped text start = false) :
    FirstFrom (isQuote text) start (quoteFind text start) := by
  have first := strchr_spec text '"' start
  unfold quoteFind
  cases search : strchr text '"' start with
  | none =>
    rw [search] at first
    intro place above
    rw [isQuote, first place above, Bool.false_and]
  | some quote =>
    rw [search] at first
    have char : text[quote]? = some '"' := of_decide_eq_true first.2.1
    dsimp only
    by_cases here : quote = start
    · rw [if_pos here]
      subst here
      refine ⟨Nat.le_refl _, ?_, fun place low high => absurd high (Nat.not_lt_of_le low)⟩
      rw [isQuote, first.2.1, clean]
      rfl
    · rw [if_neg here]
      have above : start < quote := Nat.lt_of_le_of_ne first.1 (Ne.symm here)
      refine quoteLoop_spec ⟨first.1, Nat.le_refl _, char, clean, Nat.le_refl 1, .inr ?_,
        fun place high low => ?_, plain_of_strchr first⟩ ?_
      · exact above
      · dsimp only at high low
        omega
      · have inside := (List.getElem?_eq_some_iff.mp char).1
        unfold QuoteScan.left quoteRounds
        dsimp only
        have fewer : text.length - quote + 1 ≤ text.length + 1 := by omega
        have product := Nat.mul_le_mul_right (text.length + 2) fewer
        rw [Nat.add_mul, Nat.one_mul] at product
        omega

end Gb28181.Osip
