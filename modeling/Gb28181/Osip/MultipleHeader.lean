import Gb28181.Lib.TextFile
import Gb28181.Osip.Quotes

/-! `osip_message_set_multiple_header` in `osip_message_parse.c`: a header whose value may be a
list, parted by commas that are not within quotes. -/

namespace Gb28181.Osip

open Gb28181.Lib

def isLws (char : Char) : Bool := char = ' ' || char = '\r' || char = '\n' || char = '\t'

/-- `osip_clrncpy` and `osip_clrspace`. -/
def osipClrspace (text : Text) : Text := strip isLws text

/-- `tmp_comma < tmp_quote1`, where a comma that is not there is the smallest. -/
def isBelow (tmpComma : Option Nat) (tmpQuote : Nat) : Bool :=
  match tmpComma with
  | none => true
  | some comma => comma < tmpQuote

section Splitting

variable (hvalue : Text)

/-- The next comma that is not within quotes. -/
def skipQuotes : Nat → Option Nat → Nat → Nat → Option Nat
  | 0, tmpComma, _, _ => tmpComma
  | fuel + 1, tmpComma, tmpQuote1, tmpQuote2 =>
    if isBelow tmpComma tmpQuote1 then tmpComma
    else
      let tmpComma :=
        if isBelow tmpComma tmpQuote2 then strchr hvalue ',' (tmpQuote2 + 1) else tmpComma
      match quoteFind hvalue (tmpQuote2 + 1) with
      | none => tmpComma
      | some tmpQuote1 =>
        match quoteFind hvalue (tmpQuote1 + 1) with
        | none => tmpComma
        | some tmpQuote2 => skipQuotes fuel tmpComma tmpQuote1 tmpQuote2

variable {Sip : Type} (setHeader : Text → Sip → Option Sip)

structure CommaScan (Sip : Type) where
  ptr : Nat
  comma : Nat
  beg : Nat
  sip : Sip

/-- What is left at the end of the line. -/
def lastHeader (text : Text) (sip : Sip) : Option Sip :=
  if text.length < 2 then some sip else setHeader (osipClrspace text) sip

/-- A header from `beg` to a comma is stored, and the next comma is looked at. -/
def storeHeader (scan : CommaScan Sip) (next : Option Nat) :
    Except (Option Sip) (CommaScan Sip) :=
  if scan.comma = scan.beg then .error none
  else
    match setHeader (osipClrspace ((hvalue.drop scan.beg).take (scan.comma - scan.beg)))
      scan.sip with
    | none => .error none
    | some sip =>
      match next with
      | none => .error (lastHeader setHeader (hvalue.drop (scan.comma + 1)) sip)
      | some comma => .ok ⟨comma + 1, comma, scan.comma + 1, sip⟩

/-- One round of the loop: it goes on, or the function returns. -/
def CommaScan.round (scan : CommaScan Sip) : Except (Option Sip) (CommaScan Sip) :=
  match quoteFind hvalue scan.ptr with
  | none => storeHeader hvalue setHeader scan (strchr hvalue ',' (scan.comma + 1))
  | some quote1 =>
    match quoteFind hvalue (quote1 + 1) with
    | none => .error none
    | some quote2 =>
      if scan.comma < quote1 then
        storeHeader hvalue setHeader scan
          (skipQuotes hvalue (hvalue.length + 1) (strchr hvalue ',' (scan.comma + 1)) quote1
            quote2)
      else if quote2 < scan.comma then .ok { scan with ptr := quote2 + 1 }
      else
        match strchr hvalue ',' (quote2 + 1) with
        | none => .error (lastHeader setHeader (hvalue.drop scan.beg) scan.sip)
        | some comma => .ok { scan with ptr := quote2 + 1, comma := comma }

def commaLoop : Nat → CommaScan Sip → Option Sip
  | 0, _ => none
  | fuel + 1, scan =>
    match scan.round hvalue setHeader with
    | .ok scan => commaLoop fuel scan
    | .error result => result

end Splitting

/-- The headers whose value is no list, or a text that may contain a comma. -/
def singleHeaders : List Text :=
  ["date", "to", "from", "call-id", "cseq", "subject", "expires", "server", "user-agent",
    "www-authenticate", "authentication-info", "proxy-authenticate", "proxy-authorization",
    "proxy-authentication-info", "organization", "authorization"].map String.toList

def osipTolower (word : Text) : Text := word.map Char.toLower

/-- `osip_message_set_multiple_header`, for C strings. -/
def osipMessageSetMultipleHeader {Sip : Type}
    (setHeader : Text → Option Text → Sip → Option Sip) (hname : Text) (hvalue : Option Text)
    (sip : Sip) : Option Sip :=
  let hname := osipTolower hname
  match hvalue with
  | none => setHeader hname none sip
  | some hvalue =>
    match strchr hvalue ',' 0 with
    | none => setHeader hname (some hvalue) sip
    | some comma =>
      if hname ∈ singleHeaders then setHeader hname (some hvalue) sip
      else
        commaLoop hvalue (fun value => setHeader hname (some value)) (2 * hvalue.length + 2)
          ⟨0, comma, 0, sip⟩

/-- The headers of the fields of a list, one after the other. -/
def setFields {Sip : Type} (setHeader : Text → Sip → Option Sip) : List Text → Sip → Option Sip
  | [], sip => some sip
  | [last], sip => lastHeader setHeader last sip
  | field :: fields, sip =>
    if field = [] then none
    else (setHeader (osipClrspace field) sip).bind (setFields setHeader fields)

variable {hvalue : Text} {Sip : Type} {setHeader : Text → Sip → Option Sip} {start : Nat}
  {scan : CommaScan Sip}

def Keeps (setHeader : Text → Sip → Option Sip) (kept : Sip → Prop) : Prop :=
  ∀ value sip after, setHeader value sip = some after → kept sip → kept after

theorem lastHeader_keeps {kept : Sip → Prop} {text : Text} {sip after : Sip}
    (keeps : Keeps setHeader kept) (set : lastHeader setHeader text sip = some after)
    (before : kept sip) : kept after := by
  unfold lastHeader at set
  split at set
  · cases set
    exact before
  · exact keeps _ _ _ set before

/-- The message that a round returns or goes on with. -/
def roundSip : Except (Option Sip) (CommaScan Sip) → Option Sip
  | .error result => result
  | .ok scan => some scan.sip

theorem storeHeader_keeps {kept : Sip → Prop} {next : Option Nat} {after : Sip}
    (keeps : Keeps setHeader kept)
    (stored : roundSip (storeHeader hvalue setHeader scan next) = some after)
    (before : kept scan.sip) : kept after := by
  unfold storeHeader at stored
  split at stored
  · cases stored
  · split at stored
    · cases stored
    · rename_i set
      have between := keeps _ _ _ set before
      split at stored
      · exact lastHeader_keeps keeps stored between
      · cases stored
        exact between

theorem round_keeps {kept : Sip → Prop} {after : Sip} (keeps : Keeps setHeader kept)
    (went : roundSip (scan.round hvalue setHeader) = some after) (before : kept scan.sip) :
    kept after := by
  unfold CommaScan.round at went
  split at went
  · exact storeHeader_keeps keeps went before
  · split at went
    · cases went
    · split at went
      · exact storeHeader_keeps keeps went before
      · split at went
        · cases went
          exact before
        · split at went
          · exact lastHeader_keeps keeps went before
          · cases went
            exact before

theorem commaLoop_keeps {kept : Sip → Prop} {fuel : Nat} {after : Sip}
    (keeps : Keeps setHeader kept) (ran : commaLoop hvalue setHeader fuel scan = some after)
    (before : kept scan.sip) : kept after := by
  induction fuel generalizing scan with
  | zero => cases ran
  | succ fuel ih =>
    have here {middle : Sip} := @round_keeps hvalue Sip setHeader scan kept middle keeps
    unfold commaLoop at ran
    cases went : scan.round hvalue setHeader with
    | ok next =>
      rw [went] at ran here
      exact ih ran (here rfl before)
    | error result =>
      rw [went] at ran here
      exact here ran before

/-- What every header that is set keeps, the headers of a value keep. -/
theorem setMultipleHeader_keeps {setHeader : Text → Option Text → Sip → Option Sip}
    {kept : Sip → Prop} {hname : Text} {hvalue : Option Text} {sip after : Sip}
    (keeps : ∀ hname hvalue sip after, setHeader hname hvalue sip = some after →
      kept sip → kept after)
    (set : osipMessageSetMultipleHeader setHeader hname hvalue sip = some after)
    (before : kept sip) : kept after := by
  unfold osipMessageSetMultipleHeader at set
  dsimp only at set
  split at set
  · exact keeps _ _ _ _ set before
  · split at set
    · exact keeps _ _ _ _ set before
    · split at set
      · exact keeps _ _ _ _ set before
      · exact commaLoop_keeps (fun value => keeps _ (some value)) set before

theorem apart_of_chars {position : Nat} (quote : isQuote hvalue position = true) :
    isChar hvalue ',' position = false := by
  rw [isChar, quote_char quote]
  rfl

theorem isBelow_some {comma quote : Nat} : isBelow (some comma) quote = true ↔ comma < quote :=
  decide_eq_true_iff

theorem skipQuotes_spec {fuel tmpQuote1 tmpQuote2 : Nat} {tmpComma : Option Nat}
    (balanced : Balanced hvalue) (outside : quoted hvalue start = false)
    (opens : FirstFrom (isQuote hvalue) start (some tmpQuote1))
    (closes : FirstFrom (isQuote hvalue) (tmpQuote1 + 1) (some tmpQuote2))
    (commas : FirstFrom (isChar hvalue ',') start tmpComma)
    (enough : hvalue.length - tmpQuote1 < fuel) :
    FirstFrom (isOuterComma hvalue) start
      (skipQuotes hvalue fuel tmpComma tmpQuote1 tmpQuote2) := by
  induction fuel generalizing start tmpQuote1 tmpQuote2 tmpComma with
  | zero => exact absurd enough (Nat.not_lt_zero _)
  | succ fuel ih =>
    unfold skipQuotes
    cases tmpComma with
    | none => exact outer_none commas
    | some comma =>
      by_cases before : comma < tmpQuote1
      · rw [if_pos (isBelow_some.mpr before)]
        exact outer_first outside opens commas fun quote same => Option.some.inj same ▸ before
      · rw [if_neg (mt isBelow_some.mp before)]
        have none_before (place : Nat) (low : start ≤ place) (high : place < tmpQuote1) :
            isChar hvalue ',' place = false :=
          commas.2.2 place low (Nat.lt_of_lt_of_le high (Nat.le_of_not_lt before))
        refine FirstFrom.skip ?_ (le_behind_pair opens closes).le
          (plain_pair outside opens closes none_before)
        have behind := (quoted_behind_pair opens closes).trans outside
        have clean := escaped_behind (quote_char closes.2.1) (by decide)
        have next : FirstFrom (isChar hvalue ',') (tmpQuote2 + 1)
            (if isBelow (some comma) tmpQuote2 then strchr hvalue ',' (tmpQuote2 + 1)
              else some comma) := by
          by_cases inside : comma < tmpQuote2
          · rw [if_pos (isBelow_some.mpr inside)]
            exact strchr_spec hvalue ',' _
          · rw [if_neg (mt isBelow_some.mp inside)]
            refine commas.later (le_behind_pair opens closes).le fun first same => ?_
            rw [← Option.some.inj same]
            refine Nat.lt_of_le_of_ne (Nat.le_of_not_lt inside) fun equal => ?_
            have both := apart_of_chars closes.2.1
            rw [equal, commas.2.1] at both
            cases both
        have quotes := quoteFind_spec clean
        dsimp only
        generalize (if isBelow (some comma) tmpQuote2 then strchr hvalue ',' (tmpQuote2 + 1)
          else some comma) = nextComma at next ⊢
        cases search : quoteFind hvalue (tmpQuote2 + 1) with
        | none =>
          rw [search] at quotes
          cases nextComma with
          | none => exact outer_none next
          | some comma => exact outer_first behind quotes next fun _ same => by cases same
        | some quote1 =>
          rw [search] at quotes
          have ends := quoteFind_spec (escaped_behind (quote_char quotes.2.1) (by decide))
          dsimp only
          cases second : quoteFind hvalue (quote1 + 1) with
          | none =>
            rw [second] at ends
            exact absurd ends (balanced.closes behind quotes)
          | some quote2 =>
            rw [second] at ends
            refine ih behind quotes ends next ?_
            have inside := lt_of_isQuote quotes.2.1
            have first := closes.1
            have later := quotes.1
            omega

/-- What the loop knows: the next comma, or the next comma that parts two fields. -/
structure CommaScan.Stands (hvalue : Text) (scan : CommaScan Sip) : Prop where
  outside : quoted hvalue scan.ptr = false
  clean : escaped hvalue scan.ptr = false
  low : scan.beg ≤ scan.ptr
  near : (FirstFrom (isChar hvalue ',') scan.ptr (some scan.comma) ∧
      ∀ place, scan.beg ≤ place → place < scan.ptr → isOuterComma hvalue place = false) ∨
    (scan.ptr = scan.comma + 1 ∧ FirstFrom (isOuterComma hvalue) scan.beg (some scan.comma))

theorem CommaScan.Stands.ptr_le (stands : scan.Stands hvalue) : scan.ptr ≤ scan.comma + 1 := by
  rcases stands.near with ⟨commas, -⟩ | ⟨behind, -⟩
  · exact Nat.le_succ_of_le commas.1
  · exact behind.le

def CommaScan.left (hvalue : Text) (scan : CommaScan Sip) : Nat :=
  2 * hvalue.length + 1 - (scan.ptr + scan.comma)

def CommaScan.goal (hvalue : Text) (setHeader : Text → Sip → Option Sip) (scan : CommaScan Sip) :
    Option Sip :=
  setFields setHeader (fieldsFrom hvalue scan.beg) scan.sip

/-- The function returns what the loop comes to, or goes on to the same. -/
def CommaScan.Meets (hvalue : Text) (setHeader : Text → Sip → Option Sip) (scan : CommaScan Sip) :
    Except (Option Sip) (CommaScan Sip) → Prop
  | .ok next => next.Stands hvalue ∧ next.left hvalue < scan.left hvalue ∧
      next.goal hvalue setHeader = scan.goal hvalue setHeader
  | .error result => result = scan.goal hvalue setHeader

theorem setFields_cons {field : Text} {fields : List Text} {sip : Sip} (more : fields ≠ []) :
    setFields setHeader (field :: fields) sip = if field = [] then none
      else (setHeader (osipClrspace field) sip).bind (setFields setHeader fields) := by
  cases fields with
  | nil => exact absurd rfl more
  | cons second fields => rfl

theorem storeHeader_meets {next : Option Nat} (stands : scan.Stands hvalue)
    (outer : FirstFrom (isOuterComma hvalue) scan.beg (some scan.comma))
    (behind : FirstFrom (isOuterComma hvalue) (scan.comma + 1) next) :
    scan.Meets hvalue setHeader (storeHeader hvalue setHeader scan next) := by
  have goal : scan.goal hvalue setHeader = if
      (hvalue.drop scan.beg).take (scan.comma - scan.beg) = [] then none
      else (setHeader (osipClrspace ((hvalue.drop scan.beg).take (scan.comma - scan.beg)))
        scan.sip).bind (setFields setHeader (fieldsFrom hvalue (scan.comma + 1))) := by
    unfold CommaScan.goal
    rw [fieldsFrom_some outer, setFields_cons fieldsFrom_ne_nil]
  have inside := lt_of_isOuterComma outer.2.1
  have empty : (hvalue.drop scan.beg).take (scan.comma - scan.beg) = [] ↔
      scan.comma = scan.beg := by
    rw [List.take_eq_nil_iff, List.drop_eq_nil_iff]
    have le := outer.1
    omega
  unfold storeHeader
  by_cases none_between : scan.comma = scan.beg
  · rw [if_pos none_between]
    refine (?_ : none = scan.goal hvalue setHeader)
    rw [goal, if_pos (empty.mpr none_between)]
  · rw [if_neg none_between]
    rw [if_neg (mt empty.mp none_between)] at goal
    cases set : setHeader (osipClrspace ((hvalue.drop scan.beg).take (scan.comma - scan.beg)))
        scan.sip with
    | none =>
      refine (?_ : none = scan.goal hvalue setHeader)
      rw [goal, set]
      rfl
    | some sip =>
      rw [set] at goal
      cases next with
      | none =>
        refine (?_ : lastHeader setHeader (hvalue.drop (scan.comma + 1)) sip =
          scan.goal hvalue setHeader)
        rw [goal, fieldsFrom_none behind]
        rfl
      | some comma =>
        obtain ⟨char, unquoted⟩ := Bool.and_eq_true_iff.mp behind.2.1
        have char : hvalue[comma]? = some ',' := of_decide_eq_true char
        have unquoted : quoted hvalue comma = false := by simpa using unquoted
        refine ⟨⟨?_, escaped_behind char (by decide), Nat.le_succ_of_le behind.1,
          .inr ⟨rfl, behind⟩⟩, ?_, goal.symm⟩
        · have plain : isQuote hvalue comma = false := by
            rw [isQuote, isChar, char]
            rfl
          rw [quoted_succ, plain]
          exact unquoted
        · have later := behind.1
          have last := lt_of_isOuterComma behind.2.1
          have near := stands.ptr_le
          unfold CommaScan.left
          dsimp only
          omega

theorem quoted_at {found : Option Nat} {position : Nat} (outside : quoted hvalue start = false)
    (quotes : FirstFrom (isQuote hvalue) start found) (le : start ≤ position)
    (before : ∀ quote, found = some quote → position ≤ quote) :
    quoted hvalue position = false := by
  refine (quoted_same le fun place low high => ?_).trans outside
  cases found with
  | none => exact quotes place low
  | some quote => exact quotes.2.2 place low (Nat.lt_of_lt_of_le high (before quote rfl))

/-- The comma of the loop, where it stands in front of the next quote. -/
theorem CommaScan.Stands.outer {found : Option Nat} (stands : scan.Stands hvalue)
    (quotes : FirstFrom (isQuote hvalue) scan.ptr found)
    (before : ∀ quote, found = some quote → scan.comma < quote) :
    FirstFrom (isOuterComma hvalue) scan.beg (some scan.comma) := by
  rcases stands.near with ⟨commas, plain⟩ | ⟨-, outer⟩
  · exact (outer_first stands.outside quotes commas before).skip stands.low plain
  · exact outer

theorem round_meets (balanced : Balanced hvalue) (stands : scan.Stands hvalue) :
    scan.Meets hvalue setHeader (scan.round hvalue setHeader) := by
  have quotes := quoteFind_spec stands.clean
  have near := stands.ptr_le
  unfold CommaScan.round
  cases search : quoteFind hvalue scan.ptr with
  | none =>
    rw [search] at quotes
    have outer := stands.outer quotes fun _ same => by cases same
    refine storeHeader_meets stands outer ?_
    have behind := quoted_at stands.outside quotes near fun _ same => by cases same
    have later := quotes.later near fun _ same => by cases same
    have commas := strchr_spec hvalue ',' (scan.comma + 1)
    cases next : strchr hvalue ',' (scan.comma + 1) with
    | none =>
      rw [next] at commas
      exact outer_none commas
    | some comma =>
      rw [next] at commas
      exact outer_first behind later commas fun _ same => by cases same
  | some quote1 =>
    rw [search] at quotes
    have ends := quoteFind_spec (escaped_behind (quote_char quotes.2.1) (by decide))
    dsimp only
    cases second : quoteFind hvalue (quote1 + 1) with
    | none =>
      rw [second] at ends
      exact absurd ends (balanced.closes stands.outside quotes)
    | some quote2 =>
      rw [second] at ends
      dsimp only
      by_cases before : scan.comma < quote1
      · rw [if_pos before]
        have outer := stands.outer quotes fun quote same => Option.some.inj same ▸ before
        refine storeHeader_meets stands outer ?_
        have behind := quoted_at stands.outside quotes near fun quote same =>
          Option.some.inj same ▸ before
        have later := quotes.later near fun quote same => Option.some.inj same ▸ before
        exact skipQuotes_spec balanced behind later ends (strchr_spec hvalue ',' _)
          (Nat.lt_succ_of_le (Nat.sub_le _ _))
      · rw [if_neg before]
        -- the loop has not come to a comma that parts two fields
        have ⟨commas, plain⟩ : FirstFrom (isChar hvalue ',') scan.ptr (some scan.comma) ∧
            ∀ place, scan.beg ≤ place → place < scan.ptr → isOuterComma hvalue place = false := by
          rcases stands.near with here | ⟨behind, -⟩
          · exact here
          · exact absurd (Nat.lt_of_succ_le (behind.symm.le.trans quotes.1)) before
        have none_before (place : Nat) (low : scan.ptr ≤ place) (high : place < quote1) :
            isChar hvalue ',' place = false :=
          commas.2.2 place low (Nat.lt_of_lt_of_le high (Nat.le_of_not_lt before))
        have none_between (place : Nat) (low : scan.beg ≤ place) (high : place < quote2 + 1) :
            isOuterComma hvalue place = false := by
          rcases Nat.lt_or_ge place scan.ptr with early | late
          · exact plain place low early
          · exact plain_pair stands.outside quotes ends none_before place late high
        have outside := (quoted_behind_pair quotes ends).trans stands.outside
        have clean := escaped_behind (quote_char ends.2.1) (by decide)
        have later := le_behind_pair quotes ends
        have inside := lt_of_isQuote ends.2.1
        have low := stands.low.trans later.le
        by_cases passed : quote2 < scan.comma
        · rw [if_pos passed]
          refine ⟨⟨outside, clean, low, .inl ⟨?_, none_between⟩⟩, ?_, rfl⟩
          · exact commas.later later.le fun first same => Option.some.inj same ▸ passed
          · have last : scan.comma < hvalue.length :=
              (List.getElem?_eq_some_iff.mp (of_decide_eq_true commas.2.1)).1
            unfold CommaScan.left
            dsimp only
            omega
        · rw [if_neg passed]
          have next := strchr_spec hvalue ',' (quote2 + 1)
          cases found : strchr hvalue ',' (quote2 + 1) with
          | none =>
            rw [found] at next
            refine (?_ : lastHeader setHeader (hvalue.drop scan.beg) scan.sip =
              scan.goal hvalue setHeader)
            unfold CommaScan.goal
            rw [fieldsFrom_none ((outer_none next).skip low none_between)]
            rfl
          | some comma =>
            rw [found] at next
            have last : comma < hvalue.length :=
              (List.getElem?_eq_some_iff.mp (of_decide_eq_true next.2.1)).1
            have further := next.1
            refine ⟨⟨outside, clean, low, .inl ⟨next, none_between⟩⟩, ?_, rfl⟩
            unfold CommaScan.left
            dsimp only
            omega

theorem commaLoop_eq (balanced : Balanced hvalue) (stands : scan.Stands hvalue) {fuel : Nat}
    (enough : scan.left hvalue < fuel) :
    commaLoop hvalue setHeader fuel scan = scan.goal hvalue setHeader := by
  induction fuel generalizing scan with
  | zero => exact absurd enough (Nat.not_lt_zero _)
  | succ fuel ih =>
    have meets := @round_meets _ _ setHeader scan balanced stands
    unfold commaLoop
    cases went : scan.round hvalue setHeader with
    | error result =>
      rw [went] at meets
      exact meets
    | ok next =>
      rw [went] at meets
      exact (ih meets.1 (Nat.lt_of_lt_of_le meets.2.1 (Nat.le_of_lt_succ enough))).trans meets.2.2

/-- What is stored of a value with commas whose quotes are closed. -/
theorem setMultipleHeader_eq {setHeader : Text → Option Text → Sip → Option Sip} {hname : Text}
    (list : osipTolower hname ∉ singleHeaders) (balanced : Balanced hvalue)
    (several : ',' ∈ hvalue) (sip : Sip) :
    osipMessageSetMultipleHeader setHeader hname (some hvalue) sip =
      setFields (fun value => setHeader (osipTolower hname) (some value)) (fieldsFrom hvalue 0)
        sip := by
  have first := strchr_spec hvalue ',' 0
  unfold osipMessageSetMultipleHeader
  cases search : strchr hvalue ',' 0 with
  | none =>
    rw [search] at first
    obtain ⟨position, here⟩ := List.mem_iff_getElem?.mp several
    have none_there := first position (Nat.zero_le _)
    rw [isChar, here] at none_there
    simp at none_there
  | some comma =>
    rw [search] at first
    dsimp only
    rw [search]
    dsimp only
    rw [if_neg list]
    refine commaLoop_eq balanced ⟨rfl, rfl, Nat.le_refl _, .inl ⟨first, ?_⟩⟩ ?_
    · exact fun place _ high => absurd high (Nat.not_lt_zero _)
    · unfold CommaScan.left
      dsimp only
      omega

/-- A value whose quotes are closed is parted into the one list of fields in which quotes are
closed and no comma stands outside of them; their headers are stored in this order. -/
theorem multiple_header_split {setHeader : Text → Option Text → Sip → Option Sip} (hname : Text)
    (list : osipTolower hname ∉ singleHeaders) (balanced : Balanced hvalue)
    (several : ',' ∈ hvalue) (sip : Sip) :
    ∃ fields, List.intercalate [','] fields = hvalue ∧ (∀ field ∈ fields, Closed field) ∧
      (∀ others, others ≠ [] → (∀ field ∈ others, Closed field) →
        List.intercalate [','] others = hvalue → others = fields) ∧
      osipMessageSetMultipleHeader setHeader hname (some hvalue) sip =
        setFields (fun value => setHeader (osipTolower hname) (some value)) fields sip := by
  obtain ⟨closed, joined⟩ := fieldsFrom_spec balanced rfl rfl (Nat.zero_le _)
  refine ⟨fieldsFrom hvalue 0, joined, closed, fun others filled parted same => ?_,
    setMultipleHeader_eq list balanced several sip⟩
  rw [← same, fieldsFrom_intercalate parted filled]

def contactsValue : Text := "\"Camera 1, north\" <sip:1@10.0.0.2>, <sip:2@10.0.0.2>".toList

theorem multiple_header_split_contacts : ∃ fields,
    List.intercalate [','] fields = contactsValue ∧ (∀ field ∈ fields, Closed field) ∧
      osipMessageSetMultipleHeader (fun _ value values => some (values ++ value.toList))
        "Contact".toList (some contactsValue) [] =
          setFields (fun value values => some (values ++ [value])) fields [] := by
  obtain ⟨fields, joined, closed, -, same⟩ := @multiple_header_split contactsValue (List Text)
    (fun _ value values => some (values ++ value.toList)) "Contact".toList (by decide) (by decide)
    (by decide) []
  exact ⟨fields, joined, closed, same⟩

end Gb28181.Osip
