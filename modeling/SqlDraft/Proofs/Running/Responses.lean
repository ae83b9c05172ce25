import Mathlib.Algebra.GroupWithZero.Nat
import Mathlib.Data.List.Induction
import SqlDraft.Proofs.Results
import SqlDraft.Server.Connection

/-!
# Outcomes are whole answers

An answer is gathered into an outcome part by part: its rows are those of the answer in their order,
each under its own names, and the count is the sum of its counts. A message is read under the names
described last before it, so that answers which can be read one by one can be read one after the
other. A connection passes a fault on and leaves nothing of the answer.
-/

namespace SqlDraft

/-! ## Values by the names of their columns -/

namespace TextRow

/-- A name that no column has stands for nothing. -/
theorem get?_of_not_mem {r : TextRow} {name : String} (h : name ∉ r.columns) :
    r.get? name = none := by
  have hnone : r.columns.findIdx? (fun column => column = name) = none := by
    rw [List.findIdx?_eq_none_iff]
    intro column hcolumn
    exact decide_eq_false fun he => h (he ▸ hcolumn)
  rw [get?, hnone]

/-- The first column of a name is the one that is looked up. -/
theorem get?_of_first {r : TextRow} {name : String} {before after : List String}
    (h : r.columns = before ++ name :: after) (hfirst : name ∉ before) :
    r.get? name = (r.values[before.length]?).join := by
  have hnone : before.findIdx? (fun column => column = name) = none := by
    rw [List.findIdx?_eq_none_iff]
    intro column hcolumn
    exact decide_eq_false fun he => hfirst (he ▸ hcolumn)
  have hindex : r.columns.findIdx? (fun column => column = name) = some before.length := by
    rw [h, List.findIdx?_append, hnone, List.findIdx?_cons, if_pos (decide_eq_true rfl)]
    simp only [Option.map_some, Option.none_or, Nat.zero_add]
  rw [get?, hindex]

/-- A row has a value for each of its columns. A name stands for the first column of this name, and
for nothing if there is no such column. -/
structure Labelled (r : TextRow) : Prop where
  length_eq : r.values.length = r.columns.length
  missing : ∀ name, name ∉ r.columns → r.get? name = none
  first : ∀ name before after, r.columns = before ++ name :: after → name ∉ before →
    ∃ value, r.values[before.length]? = some value ∧ r.get? name = value

/-- A row with as many values as columns is labelled by them. -/
theorem labelled_of_length {r : TextRow} (h : r.values.length = r.columns.length) : r.Labelled := by
  refine ⟨h, fun name => get?_of_not_mem, fun name before after hcolumns hfirst => ?_⟩
  have hlt : before.length < r.values.length := by
    rw [h, hcolumns, List.length_append, List.length_cons]
    omega
  refine ⟨r.values[before.length], List.getElem?_eq_getElem hlt, ?_⟩
  rw [get?_of_first hcolumns hfirst, List.getElem?_eq_getElem hlt, Option.join_some]

end TextRow

/-! ## What an answer adds up to -/

namespace Reply

/-- The row that a part of an answer is. -/
def row? : Reply → Option TextRow
  | .row columns values => some ⟨columns, values⟩
  | .description _ | .complete _ => none

/-- What a part of an answer counts. -/
def count : Reply → Nat
  | .complete count => count.toNat
  | .description _ | .row _ _ => 0

/-- A row has as many values as columns. -/
def Fits (reply : Reply) : Prop := ∀ r ∈ reply.row?, r.values.length = r.columns.length

end Reply

namespace Outcome

/-- An outcome is all of an answer: its rows in order, each of them as it was read, and the sum of
its counts. -/
structure Gathers (o : Outcome) (replies : List Reply) : Prop where
  rows_eq : o.rows = replies.filterMap Reply.row?
  affected_eq : o.affected.toNat = (replies.map Reply.count).sum
  labelled : ∀ r ∈ o.rows, r.Labelled

/-- The last part of an answer is added to the outcome of the parts before it. -/
theorem ofReplies_concat (replies : List Reply) (reply : Reply) :
    ofReplies (replies ++ [reply]) = (ofReplies replies).add reply := by
  rw [ofReplies, List.foldl_append]
  rfl

/-- A part of an answer adds its row, if it is one. -/
theorem rows_add (o : Outcome) (reply : Reply) :
    (o.add reply).rows = o.rows ++ reply.row?.toList := by
  cases reply with
  | description columns => exact (List.append_nil _).symm
  | row columns values => rfl
  | complete count => exact (List.append_nil _).symm

/-- A count is added without loss if the sum does not exceed 64 bits. -/
theorem affected_add {o : Outcome} {reply : Reply} (h : o.affected.toNat + reply.count < 2 ^ 64) :
    (o.add reply).affected.toNat = o.affected.toNat + reply.count := by
  cases reply with
  | description columns => rfl
  | row columns values => rfl
  | complete count => exact (UInt64.toNat_add ..).trans (Nat.mod_eq_of_lt h)

/-- The rows of an outcome are the rows of the answer in their order. -/
theorem rows_ofReplies (replies : List Reply) :
    (ofReplies replies).rows = replies.filterMap Reply.row? := by
  induction replies using List.reverseRecOn with
  | nil => rfl
  | append_singleton replies reply ih =>
    rw [ofReplies_concat, rows_add, ih, List.filterMap_append]
    cases h : reply.row? <;> simp [h]

/-- The count of an outcome is the sum of the counts, as long as 64 bits hold it. -/
theorem affected_ofReplies {replies : List Reply} (h : (replies.map Reply.count).sum < 2 ^ 64) :
    (ofReplies replies).affected.toNat = (replies.map Reply.count).sum := by
  induction replies using List.reverseRecOn with
  | nil => rfl
  | append_singleton replies reply ih =>
    rw [List.map_append, List.sum_append, List.map_singleton, List.sum_singleton] at h ⊢
    have hsum := ih (by omega)
    rw [ofReplies_concat, affected_add (by omega), hsum]

/-- The outcome of an answer gathers all of it. -/
theorem gathers_ofReplies {replies : List Reply} (hfits : ∀ reply ∈ replies, reply.Fits)
    (hcount : (replies.map Reply.count).sum < 2 ^ 64) : (ofReplies replies).Gathers replies := by
  refine ⟨rows_ofReplies replies, affected_ofReplies hcount, fun r hr => ?_⟩
  rw [rows_ofReplies, List.mem_filterMap] at hr
  obtain ⟨reply, hreply, hrow⟩ := hr
  exact TextRow.labelled_of_length (hfits reply hreply r hrow)

end Outcome

/-! ## Messages under the names described last -/

namespace Message

/-- The names that a message describes. -/
def names? : Message → Option (List String)
  | .columns names => some names
  | _ => none

/-- Whether a message carries the values of a row. -/
def isRow : Message → Bool
  | .row _ => true
  | _ => false

/-- What a message counts. -/
def count : Message → Nat
  | .complete tag => (affectedCount tag).toNat
  | _ => 0

/-- How a message is read under the names described last. -/
inductive ReadAs (described : Option (List String)) : Message → Reply → Prop
  | columns {names : List String} (h : names.any hasNull = false) :
      ReadAs described (.columns names) (.description names)
  | row {names : List String} {values : List (Option String)} (hnames : described = some names)
      (hlength : values.length = names.length) :
      ReadAs described (.row values) (.row names values)
  | complete {tag : String} (h : hasNull tag = false) :
      ReadAs described (.complete tag) (.complete (affectedCount tag))
  | emptyCommand : ReadAs described .emptyCommand (.complete 0)

end Message

/-- The names described last, after messages. -/
def describedAfter (described : Option (List String)) (messages : List Message) :
    Option (List String) :=
  (messages.filterMap Message.names?).getLast?.or described

/-- A message describes the names anew, or leaves them to the messages after it. -/
theorem describedAfter_cons (described : Option (List String)) (message : Message)
    (rest : List Message) :
    describedAfter described (message :: rest) =
      describedAfter (message.names?.or described) rest := by
  rw [describedAfter, describedAfter, List.filterMap_cons]
  cases message.names? with
  | none => rfl
  | some names =>
    rw [List.getLast?_cons]
    cases (rest.filterMap Message.names?).getLast? <;> rfl

/-- A message that is read adds one part to the answer. -/
theorem Message.ReadAs.repliesFrom_cons {described : Option (List String)} {message : Message}
    {reply : Reply} (h : message.ReadAs described reply) (rest : List Message) :
    repliesFrom described (message :: rest) =
      (repliesFrom (message.names?.or described) rest).map (reply :: ·) := by
  cases h with
  | columns h =>
    rw [repliesFrom, if_neg (ne_true_of_eq_false h)]
    rfl
  | row hnames hlength =>
    subst hnames
    exact if_pos hlength
  | complete h =>
    rw [repliesFrom, if_neg (ne_true_of_eq_false h)]
    rfl
  | emptyCommand => rfl

/-- Only a message that is read stands in front of an answer. -/
theorem exists_readAs_of_repliesFrom {described : Option (List String)} {message : Message}
    {rest : List Message} {replies : List Reply}
    (h : repliesFrom described (message :: rest) = .ok replies) :
    ∃ reply, message.ReadAs described reply := by
  cases message with
  | columns names =>
    by_cases hnull : names.any hasNull = true
    · rw [repliesFrom, if_pos hnull] at h
      cases h
    · exact ⟨_, .columns (eq_false_of_ne_true hnull)⟩
  | row values =>
    cases described with
    | none => cases h
    | some names =>
      by_cases hlength : values.length = names.length
      · exact ⟨_, .row rfl hlength⟩
      · simp only [repliesFrom, if_neg hlength] at h
        cases h
  | complete tag =>
    by_cases hnull : hasNull tag = true
    · rw [repliesFrom, if_pos hnull] at h
      cases h
    · exact ⟨_, .complete (eq_false_of_ne_true hnull)⟩
  | emptyCommand => exact ⟨_, .emptyCommand⟩
  | rejected code text => cases h
  | parseComplete => cases h
  | hangUp => cases h

/-- A stream is read if its first message is, and the rest under the names then described. -/
theorem repliesFrom_cons_eq_ok_iff {described : Option (List String)} {message : Message}
    {rest : List Message} {replies : List Reply} :
    repliesFrom described (message :: rest) = .ok replies ↔
      ∃ reply others, message.ReadAs described reply ∧
        repliesFrom (message.names?.or described) rest = .ok others ∧
        replies = reply :: others := by
  constructor
  · intro h
    obtain ⟨reply, hread⟩ := exists_readAs_of_repliesFrom h
    rw [hread.repliesFrom_cons, map_eq_ok_iff] at h
    obtain ⟨others, hothers, rfl⟩ := h
    exact ⟨reply, others, hread, hothers, rfl⟩
  · rintro ⟨reply, others, hread, hothers, rfl⟩
    rw [hread.repliesFrom_cons, hothers]
    rfl

/-- Messages that can be read leave what comes behind them, a fault of it included, to be read under
the names that they described last. -/
theorem repliesFrom_append_of_ok {described : Option (List String)} {first : List Message}
    {replies : List Reply} (hfirst : repliesFrom described first = .ok replies)
    (rest : List Message) :
    repliesFrom described (first ++ rest) =
      (repliesFrom (describedAfter described first) rest).map (replies ++ ·) := by
  induction first generalizing described replies with
  | nil =>
    cases hfirst
    exact (congrFun Except.map_id (repliesFrom described rest)).symm
  | cons message first ih =>
    obtain ⟨reply, others, hread, hothers, rfl⟩ := repliesFrom_cons_eq_ok_iff.mp hfirst
    rw [List.cons_append, hread.repliesFrom_cons, ih hothers, describedAfter_cons]
    cases repliesFrom (describedAfter (message.names?.or described) first) rest <;> rfl

/-- Messages are read in two parts, the second under the names that the first described last. -/
theorem repliesFrom_append_eq_ok_iff {described : Option (List String)}
    {first second : List Message} {replies : List Reply} :
    repliesFrom described (first ++ second) = .ok replies ↔
      ∃ before after, repliesFrom described first = .ok before ∧
        repliesFrom (describedAfter described first) second = .ok after ∧
        replies = before ++ after := by
  constructor
  · intro h
    induction first generalizing described replies with
    | nil => exact ⟨[], replies, rfl, h, rfl⟩
    | cons message rest ih =>
      obtain ⟨reply, others, hread, hothers, rfl⟩ := repliesFrom_cons_eq_ok_iff.mp h
      obtain ⟨before, after, hbefore, hafter, rfl⟩ := ih hothers
      rw [describedAfter_cons]
      have hmessage := repliesFrom_cons_eq_ok_iff.mpr ⟨reply, before, hread, hbefore, rfl⟩
      exact ⟨reply :: before, after, hmessage, hafter, rfl⟩
  · rintro ⟨before, after, hbefore, hafter, rfl⟩
    rw [repliesFrom_append_of_ok hbefore, hafter]
    rfl

/-- A message that is read stays read as it was where more names are known. -/
theorem Message.ReadAs.mono {described known : Option (List String)} {message : Message}
    {reply : Reply} (h : message.ReadAs described reply)
    (hknown : ∀ names, described = some names → known = some names) :
    message.ReadAs known reply := by
  cases h with
  | columns h => exact .columns h
  | row hnames hlength => exact .row (hknown _ hnames) hlength
  | complete h => exact .complete h
  | emptyCommand => exact .emptyCommand

/-- Messages that are read are read alike where more is described. -/
theorem repliesFrom_mono {described known : Option (List String)} {messages : List Message}
    {replies : List Reply} (h : repliesFrom described messages = .ok replies)
    (hknown : ∀ names, described = some names → known = some names) :
    repliesFrom known messages = .ok replies := by
  induction messages generalizing described known replies with
  | nil => exact h
  | cons message rest ih =>
    obtain ⟨reply, others, hread, hothers, rfl⟩ := repliesFrom_cons_eq_ok_iff.mp h
    refine repliesFrom_cons_eq_ok_iff.mpr ⟨reply, others, hread.mono hknown, ih hothers ?_, rfl⟩
    cases message.names? with
    | none => exact hknown
    | some names => exact fun _ => id

/-- Answers that can be read one by one can be read one after the other. -/
theorem repliesFrom_append {described : Option (List String)} {first second : List Message}
    {replies more : List Reply} (hfirst : repliesFrom described first = .ok replies)
    (hsecond : repliesFrom none second = .ok more) :
    repliesFrom described (first ++ second) = .ok (replies ++ more) :=
  repliesFrom_append_eq_ok_iff.mpr ⟨replies, more, hfirst, repliesFrom_mono hsecond nofun, rfl⟩

/-- A rejection without null characters is a fault of the server's own, wherever it comes. -/
theorem repliesFrom_append_rejected {described : Option (List String)} {first : List Message}
    {replies : List Reply} (hfirst : repliesFrom described first = .ok replies) {code text : String}
    (hcode : '\x00' ∉ code.toList) (htext : '\x00' ∉ text.toList) (rest : List Message) :
    repliesFrom described (first ++ .rejected code text :: rest) = .error .database := by
  rw [repliesFrom_append_of_ok hfirst, repliesFrom,
    if_pos (isReadableRejection_eq_true hcode htext)]
  rfl

/-! ## What messages tell -/

/-- A part of an answer is a row or not as its message is, and counts as much. -/
structure Message.Agrees (message : Message) (reply : Reply) : Prop where
  fits : reply.Fits
  isSome_row? : reply.row?.isSome = message.isRow
  count_eq : reply.count = message.count

/-- What a message is read as is a row just if the message is one, and counts as much. -/
theorem Message.ReadAs.agrees {described : Option (List String)} {message : Message}
    {reply : Reply} (h : message.ReadAs described reply) : message.Agrees reply := by
  cases h with
  | columns h => exact ⟨nofun, rfl, rfl⟩
  | row hnames hlength =>
    refine ⟨fun r hr => ?_, rfl, rfl⟩
    cases hr
    exact hlength
  | complete h => exact ⟨nofun, rfl, rfl⟩
  | emptyCommand => exact ⟨nofun, rfl, rfl⟩

/-- Every message that is read makes one part of the answer. -/
theorem forall₂_agrees_of_repliesFrom {described : Option (List String)} {messages : List Message}
    {replies : List Reply} (h : repliesFrom described messages = .ok replies) :
    List.Forall₂ Message.Agrees messages replies := by
  induction messages generalizing described replies with
  | nil =>
    cases h
    exact .nil
  | cons message rest ih =>
    obtain ⟨reply, others, hread, hothers, rfl⟩ := repliesFrom_cons_eq_ok_iff.mp h
    exact .cons hread.agrees (ih hothers)

/-- The messages up to a point have as many rows as the parts of the answer that they make. -/
theorem length_filterMap_row? {messages : List Message} {replies : List Reply}
    (h : List.Forall₂ Message.Agrees messages replies) :
    (replies.filterMap Reply.row?).length = messages.countP Message.isRow := by
  have hrows : messages.map Message.isRow = replies.map fun reply => reply.row?.isSome :=
    map_eq_map_of_forall₂ (fun _ _ hagrees => hagrees.isSome_row?.symm) h
  have hcount := congrArg (List.countP id) hrows
  rw [List.countP_map, List.countP_map] at hcount
  rw [List.length_filterMap_eq_countP]
  exact hcount.symm

/-- Rows that agree with their messages have as many values as columns. -/
theorem fits_of_agrees {messages : List Message} {replies : List Reply}
    (h : List.Forall₂ Message.Agrees messages replies) : ∀ reply ∈ replies, reply.Fits := by
  induction h with
  | nil => exact nofun
  | cons hagrees _ ih => exact List.forall_mem_cons.mpr ⟨hagrees.fits, ih⟩

/-- An outcome is what messages tell: a row for each row message, in order and under the names
described last before it, and the sum of their counts. -/
structure Outcome.Tells (o : Outcome) (messages : List Message) : Prop where
  length_rows : o.rows.length = messages.countP Message.isRow
  row_eq : ∀ before values after, messages = before ++ .row values :: after →
    ∃ names, describedAfter none before = some names ∧
      o.rows[before.countP Message.isRow]? = some ⟨names, values⟩
  affected_eq : o.affected.toNat = (messages.map Message.count).sum

/-- The outcome of a stream that is read tells what the messages say. -/
theorem Outcome.tells_ofReplies {messages : List Message} {replies : List Reply}
    (h : repliesFrom none messages = .ok replies)
    (hcount : (replies.map Reply.count).sum < 2 ^ 64) : (ofReplies replies).Tells messages := by
  have hagrees := forall₂_agrees_of_repliesFrom h
  refine ⟨?_, fun before values after hsplit => ?_, ?_⟩
  · rw [rows_ofReplies, length_filterMap_row? hagrees]
  · rw [hsplit] at h
    obtain ⟨earlier, later, hearlier, hlater, rfl⟩ := repliesFrom_append_eq_ok_iff.mp h
    obtain ⟨reply, others, hread, -, rfl⟩ := repliesFrom_cons_eq_ok_iff.mp hlater
    cases hread with
    | @row names _ hnames _ =>
      refine ⟨names, hnames, ?_⟩
      have hplace := length_filterMap_row? (forall₂_agrees_of_repliesFrom hearlier)
      rw [rows_ofReplies, List.filterMap_append, ← hplace,
        List.getElem?_append_right (Nat.le_refl _), Nat.sub_self]
      rfl
  · have hcounts : messages.map Message.count = replies.map Reply.count :=
      map_eq_map_of_forall₂ (fun _ _ hagrees => hagrees.count_eq.symm) hagrees
    rw [affected_ofReplies hcount, hcounts]

/-! ## Connections -/

namespace Connection

/-- A text is answered by the next messages of the server. -/
theorem repliesFrom_of_query {c : Connection} {sql : String} {replies : List Reply}
    (h : (c.query sql).1 = .ok replies) :
    repliesFrom none (c.answers.headD []) = .ok replies := by
  rw [query] at h
  by_cases hnull : hasNull sql = true
  · rw [if_pos hnull] at h
    cases h
  · rw [if_neg hnull] at h
    by_cases hclosed : (!c.isOpen) = true
    · rw [if_pos hclosed] at h
      cases h
    · rw [if_neg hclosed] at h
      exact h

/-- A statement on a connection gives the outcome of the answer, or the fault as an error. -/
theorem result_execute (c : Connection) (sql : String) :
    (c.execute sql).1.result =
      match (c.query sql).1 with
      | .ok replies => .ok (Outcome.ofReplies replies)
      | .error fault => .error (.query fault) := rfl

/-- A text that the server rejects has no outcome, whatever the server has answered to it before. -/
theorem result_execute_rejected {c : Connection} {sql : String} (hopen : c.isOpen = true)
    (hsql : hasNull sql = false) {first rest : List Message} {replies : List Reply}
    (hfirst : repliesFrom none first = .ok replies) {code text : String}
    (hcode : '\x00' ∉ code.toList) (htext : '\x00' ∉ text.toList)
    (hanswer : c.answers.headD [] = first ++ .rejected code text :: rest) :
    (c.execute sql).1.result = .error (.query .database) := by
  have hquery : (c.query sql).1 = .error .database := by
    rw [query, if_neg (ne_true_of_eq_false hsql), if_neg (by rw [hopen]; exact Bool.false_ne_true),
      hanswer]
    exact repliesFrom_append_rejected hfirst hcode htext rest
  rw [result_execute, hquery]

/-- A connection that can answer a text gathers the whole answer: every row of it in order, read
under its own names, and the sum of the counts, as the messages of the server tell them. What one
answer adds to another is its rows and its count. A fault is passed on, and no part of an answer is
kept. -/
theorem execute_gathers (c : Connection) (sql : String) (replies more : List Reply)
    (hcount : ((replies ++ more).map Reply.count).sum < 2 ^ 64) :
    ((∀ reply ∈ replies, reply.Fits) → (Outcome.ofReplies replies).Gathers replies) ∧
    (Outcome.ofReplies (replies ++ more)).rows =
      (Outcome.ofReplies replies).rows ++ (Outcome.ofReplies more).rows ∧
    (Outcome.ofReplies (replies ++ more)).affected.toNat =
      (Outcome.ofReplies replies).affected.toNat + (Outcome.ofReplies more).affected.toNat ∧
    (∀ first second, repliesFrom none first = .ok replies → repliesFrom none second = .ok more →
      repliesFrom none (first ++ second) = .ok (replies ++ more)) ∧
    ((c.query sql).1 = .ok replies →
      (c.execute sql).1.result = .ok (Outcome.ofReplies replies) ∧
        (∀ reply ∈ replies, reply.Fits) ∧
        (Outcome.ofReplies replies).Tells (c.answers.headD [])) ∧
    ∀ fault, (c.query sql).1 = .error fault → (c.execute sql).1.result = .error (.query fault) := by
  rw [List.map_append, List.sum_append] at hcount
  have hreplies : (replies.map Reply.count).sum < 2 ^ 64 := by omega
  have hmore : (more.map Reply.count).sum < 2 ^ 64 := by omega
  refine ⟨fun hfits => Outcome.gathers_ofReplies hfits hreplies,
    Outcome.rows_ofReplies_append replies more, ?_, fun first second => repliesFrom_append,
    fun hquery => ?_, fun fault hquery => ?_⟩
  · rw [Outcome.affected_ofReplies hreplies, Outcome.affected_ofReplies hmore,
      Outcome.affected_ofReplies (by rwa [List.map_append, List.sum_append]), List.map_append,
      List.sum_append]
  · have hread := repliesFrom_of_query hquery
    refine ⟨?_, fits_of_agrees (forall₂_agrees_of_repliesFrom hread),
      Outcome.tells_ofReplies hread hreplies⟩
    rw [result_execute, hquery]
  · rw [result_execute, hquery]

/-- Two results with other columns, the first of which names a column twice, an empty one between
them and an update after them. -/
def twoResults : List Message :=
  [.columns ["id", "name", "id"], .row [some "1", none, some "2"], .complete "SELECT 1",
    .columns ["name"], .complete "SELECT 0",
    .columns ["city"], .row [some "Bonn"], .complete "SELECT 1", .emptyCommand,
    .complete "UPDATE 3"]

/-- The parts of the answer with two results. -/
def twoResultsRead : List Reply :=
  [.description ["id", "name", "id"], .row ["id", "name", "id"] [some "1", none, some "2"],
    .complete 1, .description ["name"], .complete 0,
    .description ["city"], .row ["city"] [some "Bonn"], .complete 1, .complete 0, .complete 3]

/-- The first column of a name is the one that is looked up, and rows in front of a fault are
lost. -/
theorem execute_gathers_twoResults :
    let answering : Connection := ⟨true, [twoResults], []⟩
    let closing : Connection := ⟨true, [[.columns ["id"], .row [some "1"], .hangUp]], []⟩
    let row : TextRow := ⟨["id", "name", "id"], [some "1", none, some "2"]⟩
    let outcome : Outcome := ⟨[row, ⟨["city"], [some "Bonn"]⟩], 5⟩
    (answering.query "SELECT 1").1 = .ok twoResultsRead ∧
    ((twoResultsRead ++ twoResultsRead).map Reply.count).sum < 2 ^ 64 ∧
    (answering.execute "SELECT 1").1.result = .ok outcome ∧
    outcome.Gathers twoResultsRead ∧ outcome.Tells twoResults ∧
    row.get? "id" = some "1" ∧ row.get? "name" = none ∧
    (Outcome.ofReplies (twoResultsRead ++ twoResultsRead)).affected.toNat = 10 ∧
    (closing.execute "SELECT 1").1.result = .error (.query .connectionClosed) := by
  intro answering closing row outcome
  have hcount : ((twoResultsRead ++ twoResultsRead).map Reply.count).sum < 2 ^ 64 := by decide
  obtain ⟨hgathers, -, haffected, -, hquery, -⟩ :=
    execute_gathers answering "SELECT 1" twoResultsRead twoResultsRead hcount
  obtain ⟨hresult, hfits, htells⟩ := hquery rfl
  obtain ⟨-, -, -, -, -, hfault⟩ := execute_gathers closing "SELECT 1" [] [] (by decide)
  exact ⟨rfl, hcount, hresult, hgathers hfits, htells, rfl, rfl, haffected, hfault _ rfl⟩

end Connection

end SqlDraft
