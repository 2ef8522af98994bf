import Mathlib.Data.List.Forall2
import QueryDesk.Engine.Paging
import QueryDesk.Proofs.Json.Writer
import QueryDesk.Proofs.Json.Reading
import QueryDesk.Proofs.Text.Utf8

/-!
# The pages of a result

A result comes in pages that lead from one to the next.  How its rows are spread over the pages
does not matter: the client asks for each page once, in order, and what it answers is read off the
rows of all pages (`queryScalar_of_serves`).  A page with an error is the last one that is asked
for, and its error is the answer, whatever rows came before it.
-/

namespace QueryDesk.Engine

open QueryDesk.Http QueryDesk.Json QueryDesk.Text

/-! ## Rows -/

/-- The rows of a page.  No data, null and an empty list are all no rows. -/
def Page.data (page : Page) : List (List Value) :=
  page.rows.getD []

/-- The rows of some pages, one page after the other. -/
def rowsOf (pages : List Page) : List (List Value) :=
  pages.flatMap Page.data

/-- The first value of the first row. -/
def firstValue? (rows : List (List Value)) : Option Value :=
  rows.head?.bind List.head?

/-- The answer that goes with the rows of a result: the first value of the first row. -/
def answerOf : List (List Value) → Except Failure Value
  | (value :: _) :: _ => .ok value
  | _ => .error .noRows

theorem answerOf_eq (rows : List (List Value)) :
    answerOf rows = (firstValue? rows).elim (.error .noRows) .ok := by
  rcases rows with _ | ⟨_ | ⟨value, row⟩, rest⟩ <;> rfl

theorem scalar?_eq (page : Page) : page.scalar? = firstValue? page.data := by
  unfold Page.scalar? Page.data firstValue?
  cases page.rows <;> rfl

/-- Rows with a value each: the first ones decide, if there are any. -/
theorem firstValue?_append {rows : List (List Value)} (filled : ∀ row ∈ rows, row ≠ [])
    (more : List (List Value)) :
    firstValue? (rows ++ more) = (firstValue? rows).or (firstValue? more) := by
  cases rows with
  | nil => rfl
  | cons row rest =>
    obtain ⟨value, others, rfl⟩ := List.exists_cons_of_ne_nil (filled row (List.mem_cons_self ..))
    rfl

/-! ## Pages that lead to a last one -/

/-- A reply with a page. -/
def Delivers (reply : Reply) (page : Page) : Prop :=
  ∃ answer, reply = .answer answer ∧ readPage answer = .ok page

/-- Pages without an error, each of which has the address of the page behind it; the last page
    stands behind all of them.  The targets are those of the addresses. -/
inductive Leads (link : Link) : List Page → List String → Page → Prop where
  | here (last : Page) : Leads link [] [] last
  | next {page last : Page} {pages : List Page} {address target : String} {targets : List String}
      (clean : page.error = none) (addressed : page.next = some address)
      (reached : link.target? address = some target) (onward : Leads link pages targets last) :
      Leads link (page :: pages) (target :: targets) last

/-- The request that posts a statement. -/
def Client.statement (client : Client) (target sql : String) : Sent :=
  ⟨"POST", target, [("x-trino-user", client.user), ("x-trino-source", "dynq")], sql⟩

/-- The request for a page behind the first one. -/
def Client.inquiry (client : Client) (target : String) : Sent :=
  ⟨"GET", target, [("x-trino-user", client.user)], ""⟩

/-- An engine that answers a statement with pages.  The pages before the last one lead to it, and
    the last one has an error or no address.  Any replies may follow. -/
structure Serves (client : Client) (link : Link) (target : String) (before : List Page)
    (targets : List String) (last : Page) (rest : List Reply) : Prop where
  user : isFieldValue client.user = true
  posted : link.target? (trimSlashes client.base ++ "/v1/statement") = some target
  replies : ∃ replies, link.replies = replies ++ rest ∧
    List.Forall₂ Delivers replies (before ++ [last])
  leads : Leads link before targets last
  ends : last.next = none ∨ last.error.isSome = true

/-! ## Fetching one page -/

/-- A link after requests that have been answered. -/
def answered (link : Link) (requests : List Sent) (rest : List Reply) : Link :=
  { link with replies := rest, sent := link.sent ++ requests }

theorem fetch_of_delivers {link : Link} {method address target : String}
    {headers : List (String × String)} {body : String} {reply : Reply} {rest : List Reply}
    {page : Page} (valid : headers.all (fun header => isFieldValue header.2) = true)
    (reached : link.target? address = some target) (replies : link.replies = reply :: rest)
    (delivers : Delivers reply page) :
    Client.fetch link method address headers body =
      (.ok page, answered link [⟨method, target, headers, body⟩] rest) := by
  obtain ⟨answer, rfl, read⟩ := delivers
  have sent : link.send method address headers body =
      (some answer, answered link [⟨method, target, headers, body⟩] rest) := by
    simp [Link.send, valid, reached, Link.takeReply, replies, answered]
  rw [Client.fetch, sent]
  dsimp only
  rw [read]

theorem follow_of_delivers {client : Client} (user : isFieldValue client.user = true) {link : Link}
    {address target : String} {reply : Reply} {rest : List Reply} {page : Page}
    (reached : link.target? address = some target) (replies : link.replies = reply :: rest)
    (delivers : Delivers reply page) :
    client.follow link address = (.ok page, answered link [client.inquiry target] rest) :=
  fetch_of_delivers (by simp [user]) reached replies delivers

theorem post_of_delivers {client : Client} (user : isFieldValue client.user = true) {link : Link}
    {target sql : String} {reply : Reply} {rest : List Reply} {page : Page}
    (reached : link.target? (trimSlashes client.base ++ "/v1/statement") = some target)
    (replies : link.replies = reply :: rest) (delivers : Delivers reply page) :
    client.post link sql = (.ok page, answered link [client.statement target sql] rest) := by
  have source : isFieldValue "dynq" = true := by decide
  exact fetch_of_delivers (by simp [user, source]) reached replies delivers

/-! ## Walking to the last page -/

theorem Leads.answered {link : Link} {pages : List Page} {targets : List String} {last : Page}
    (h : Leads link pages targets last) (requests : List Sent) (rest : List Reply) :
    Leads (answered link requests rest) pages targets last := by
  induction h with
  | here last => exact .here last
  | next clean addressed reached _ ih => exact .next clean addressed reached ih

theorem answered_answered (link : Link) (requests more : List Sent) (rest rest' : List Reply) :
    Engine.answered (answered link requests rest) more rest' =
      Engine.answered link (requests ++ more) rest' := by
  simp [Engine.answered]

/-- The client comes to the last page, having asked for each page behind the first one once and in
    order, with the first value of the rows before the last page. -/
theorem walk_of_leads {client : Client} (user : isFieldValue client.user = true)
    {before behind : List Page} {first last : Page} (pages : before ++ [last] = first :: behind)
    {link : Link} {targets : List String} (leads : Leads link before targets last)
    {replies rest : List Reply} (replied : link.replies = replies ++ rest)
    (delivered : List.Forall₂ Delivers replies behind) (found : Option Value) {fuel : Nat}
    (enough : before.length ≤ fuel) :
    ∃ found' fuel', client.walk fuel found first link =
        client.walk fuel' found' last (answered link (targets.map client.inquiry) rest) ∧
      ((∀ row ∈ rowsOf before, row ≠ []) →
        found' = found.or (firstValue? (rowsOf before))) := by
  induction before generalizing first behind link targets replies found fuel with
  | nil =>
    cases leads
    cases pages
    cases delivered
    refine ⟨found, fuel, ?_, fun _ => (Option.or_none).symm⟩
    have same : answered link [] rest = link := by
      rw [answered, List.append_nil, ← List.nil_append rest, ← replied]
    rw [List.map_nil, same]
  | cons page before ih =>
    cases leads with
    | @next _ _ _ address target targets clean addressed reached onward =>
      rw [List.cons_append, List.cons.injEq] at pages
      obtain ⟨rfl, behind⟩ := pages
      obtain ⟨second, later, split⟩ : ∃ second later, before ++ [last] = second :: later :=
        List.exists_cons_of_ne_nil (by simp)
      rw [← behind, split] at delivered
      obtain ⟨reply, others, delivers, onwards, rfl⟩ := List.forall₂_cons_right_iff.1 delivered
      rw [List.cons_append] at replied
      obtain ⟨fuel, rfl⟩ : ∃ n, fuel = n + 1 := Nat.exists_eq_add_one.2 (by
        rw [List.length_cons] at enough
        omega)
      rw [List.length_cons, Nat.add_le_add_iff_right] at enough
      obtain ⟨found', fuel', walked, value⟩ := ih split
        (onward.answered [client.inquiry target] (others ++ rest)) rfl onwards
        (found.or page.scalar?) enough
      refine ⟨found', fuel', ?_, ?_⟩
      · rw [Client.walk, clean]
        dsimp only
        rw [addressed]
        dsimp only
        rw [follow_of_delivers user reached replied delivers]
        dsimp only
        rw [walked, answered_answered]
        rfl
      · intro filled
        rw [rowsOf, List.flatMap_cons, List.forall_mem_append] at filled
        rw [value filled.2, Option.or_assoc, scalar?_eq, ← firstValue?_append filled.1]
        rfl

/-! ## Running a statement -/

/-- The requests of a run: the statement, and an inquiry for each page behind the first one. -/
def Client.requests (client : Client) (target sql : String) (targets : List String) : List Sent :=
  client.statement target sql :: targets.map client.inquiry

/-- The client comes to the last page of those that it is served. -/
theorem queryScalar_of_leads {client : Client} {link : Link} {target : String}
    {before : List Page} {targets : List String} {last : Page} {rest : List Reply}
    (served : Serves client link target before targets last rest) (sql : String) :
    ∃ found fuel, client.queryScalar link sql =
        client.walk fuel found last (answered link (client.requests target sql targets) rest) ∧
      ((∀ row ∈ rowsOf before, row ≠ []) → found = firstValue? (rowsOf before)) := by
  obtain ⟨user, posted, ⟨replies, replied, delivered⟩, leads, -⟩ := served
  obtain ⟨first, behind, split⟩ : ∃ first behind, before ++ [last] = first :: behind :=
    List.exists_cons_of_ne_nil (by simp)
  rw [split] at delivered
  obtain ⟨reply, others, delivers, onwards, rfl⟩ := List.forall₂_cons_right_iff.1 delivered
  rw [List.cons_append] at replied
  have count : others.length = before.length := by
    have total := congrArg List.length split
    rw [List.length_append, List.length_singleton, List.length_cons, ← onwards.length_eq] at total
    omega
  have enough : before.length ≤ (others ++ rest).length + 1 := by
    rw [List.length_append]
    omega
  obtain ⟨found, fuel, walked, value⟩ := walk_of_leads user split
    (leads.answered [client.statement target sql] (others ++ rest)) rfl onwards none enough
  refine ⟨found, fuel, ?_, fun filled => (value filled).trans (Option.none_or)⟩
  rw [Client.queryScalar, post_of_delivers user posted replied delivers]
  dsimp only
  exact walked.trans (by rw [answered_answered]; rfl)

/-- A page with an error ends the walk with it. -/
theorem walk_of_error (client : Client) {fuel : Nat} (found : Option Value) {last : Page}
    {e : PageError} (error : last.error = some e) (link : Link) :
    client.walk fuel found last link = (.error (.query e.name e.message), link) := by
  rw [Client.walk, error]

/-- A page without an address ends the walk with the value found by then. -/
theorem walk_of_end (client : Client) {fuel : Nat} (found : Option Value) {last : Page}
    (clean : last.error = none) (final : last.next = none) (link : Link) :
    client.walk fuel found last link =
      ((found.or (firstValue? last.data)).elim (.error .noRows) .ok, link) := by
  rw [Client.walk, clean]
  dsimp only
  rw [final, scalar?_eq]
  cases found.or (firstValue? last.data) <;> rfl

/-- The result of pages without an error is read off the rows of all pages. -/
theorem queryScalar_of_end {client : Client} {link : Link} {target : String}
    {before : List Page} {targets : List String} {last : Page} {rest : List Reply}
    (served : Serves client link target before targets last rest) (sql : String)
    (clean : last.error = none) (filled : ∀ row ∈ rowsOf (before ++ [last]), row ≠ []) :
    (client.queryScalar link sql).1 = answerOf (rowsOf (before ++ [last])) := by
  have final : last.next = none := by simpa [clean] using served.ends
  obtain ⟨found, fuel, walked, value⟩ := queryScalar_of_leads served sql
  have rows : rowsOf (before ++ [last]) = rowsOf before ++ last.data := by simp [rowsOf]
  rw [rows, List.forall_mem_append] at filled
  rw [walked, walk_of_end client found clean final, value filled.1, rows, answerOf_eq,
    firstValue?_append filled.1]

/-- Paging does not matter.  The statement is posted once and each further page asked for once, in
    order, up to the last one, and no reply behind it is taken.  The last page's error is the
    result if it has one, whatever rows came before.  Without an error, and if no row is empty, the
    result is the first value of the first row of all pages, or that there are no rows, so that it
    is the same for any other pages with the same rows. -/
theorem queryScalar_of_serves {client : Client} {link : Link} {target : String}
    {before : List Page} {targets : List String} {last : Page} {rest : List Reply}
    (served : Serves client link target before targets last rest) (sql : String) :
    let run := client.queryScalar link sql
    run.2 = answered link (client.requests target sql targets) rest ∧
      (∀ e, last.error = some e → run.1 = .error (.query e.name e.message)) ∧
      (last.error = none → (∀ row ∈ rowsOf (before ++ [last]), row ≠ []) →
        run.1 = answerOf (rowsOf (before ++ [last])) ∧
        ∀ (client' : Client) (link' : Link) (target' : String) (before' : List Page)
          (targets' : List String) (last' : Page) (rest' : List Reply) (sql' : String),
          Serves client' link' target' before' targets' last' rest' → last'.error = none →
          rowsOf (before' ++ [last']) = rowsOf (before ++ [last]) →
          (client'.queryScalar link' sql').1 = run.1) := by
  intro run
  obtain ⟨found, fuel, walked, -⟩ := queryScalar_of_leads served sql
  have walked : run = client.walk fuel found last _ := walked
  refine ⟨?_, ?_, ?_⟩
  · cases error : last.error with
    | some e => rw [walked, walk_of_error client found error]
    | none =>
      have final : last.next = none := by simpa [error] using served.ends
      rw [walked, walk_of_end client found error final]
  · intro e error
    rw [walked, walk_of_error client found error]
  · intro clean filled
    have result : run.1 = answerOf (rowsOf (before ++ [last])) :=
      queryScalar_of_end served sql clean filled
    refine ⟨result, ?_⟩
    intro client' link' target' before' targets' last' rest' sql' served' clean' rows
    rw [result, queryScalar_of_end served' sql' clean' (rows ▸ filled), rows]

/-! ## Bodies -/

/-- A reply whose body is a JSON object. -/
def replyOf (members : List (String × Value)) : Reply :=
  .answer ⟨200, [Utf8.encode (Value.object members).render], true⟩

theorem bodyText_object (members : List (String × Value)) :
    Answer.bodyText (Utf8.encode (Value.object members).render) =
      (Value.object members).render := by
  have text := Utf8.lossy_encodeChars (Value.object members).chars
  rw [Utf8.encode, Value.render, String.toList_ofList]
  rw [Value.chars, Utf8.encodeChars, List.flatMap_cons, Utf8.encodeChar_ascii (by decide)] at text ⊢
  exact text

/-- An object that is read as a page delivers it. -/
theorem delivers_replyOf {members : List (String × Value)} {page : Page}
    (numberless : (Value.object members).numberless = true)
    (read : Reader.record Page.shape maxNesting (Value.object members).tree = .ok page) :
    Delivers (replyOf members) page := by
  refine ⟨_, rfl, ?_⟩
  have parsed : Page.parse (Value.object members).render = .ok page := by
    rw [Page.parse, parse_of_isText _ (Value.isText_render _ numberless), read]
  have body (bytes : Bytes) : Answer.body? ⟨200, [bytes], true⟩ = some bytes := by
    simp [Answer.body?, Answer.delivered, Answer.isBodiless]
  have success (chunks : List Bytes) : Answer.isSuccess ⟨200, chunks, true⟩ = true := rfl
  rw [readPage, success, body]
  simp only [Bool.not_true, Bool.false_eq_true, if_false, bodyText_object, parsed]

/-- An engine and the user that statements run as. -/
def deskEngine : Client := ⟨"http://Engine:8080/", "desk"⟩

/-- The address of a page behind the first one. -/
def pageAddress (number : String) : String :=
  "http://engine:8080/v1/statement/q1/" ++ number

/-- Two rows, the first of which starts with null. -/
def nullRows : List Value :=
  [.array [.null, .string "a"], .array [.string "b"]]

/-- The rows on the last of three pages, of which the first has no data and the second no rows. -/
def spreadReplies : List Reply :=
  [replyOf [("id", .string "q1"), ("nextUri", .string (pageAddress "1"))],
    replyOf [("id", .string "q1"), ("nextUri", .string (pageAddress "2")), ("data", .array [])],
    replyOf [("id", .string "q1"), ("data", .array nullRows), ("error", .null)]]

/-- The rows on one page, and a reply that nobody asks for. -/
def singleReplies : List Reply :=
  [replyOf [("id", .string "q2"), ("data", .array nullRows)], .drop]

/-- A first page with rows, and a second one with an error. -/
def failingReplies : List Reply :=
  [replyOf [("id", .string "q3"), ("nextUri", .string (pageAddress "1")),
      ("data", .array nullRows)],
    replyOf [("id", .string "q3"), ("nextUri", .string (pageAddress "2")),
      ("error", .object [("message", .string "gone"), ("errorName", .string "KILLED")])],
    .drop]

/-- The page that the rows stand on. -/
def nullPage (id : String) : Page :=
  ⟨id, none, some [[.null, .string "a"], [.string "b"]], none⟩

/-- The links to engines that give these replies. -/
def spreadLink : Link := .to "engine:8080" spreadReplies

@[inherit_doc spreadLink]
def singleLink : Link := .to "engine:8080" singleReplies

@[inherit_doc spreadLink]
def failingLink : Link := .to "engine:8080" failingReplies

theorem serves_spread : Serves deskEngine spreadLink "/v1/statement"
    [⟨"q1", some (pageAddress "1"), none, none⟩, ⟨"q1", some (pageAddress "2"), some [], none⟩]
    ["/v1/statement/q1/1", "/v1/statement/q1/2"] (nullPage "q1") [] where
  user := by decide +kernel
  posted := by decide +kernel
  replies := ⟨spreadReplies, rfl, .cons (delivers_replyOf rfl rfl)
    (.cons (delivers_replyOf rfl rfl) (.cons (delivers_replyOf rfl rfl) .nil))⟩
  leads := .next rfl rfl (by decide +kernel) (.next rfl rfl (by decide +kernel) (.here _))
  ends := .inl rfl

theorem serves_single :
    Serves deskEngine singleLink "/v1/statement" [] [] (nullPage "q2") [.drop] where
  user := by decide +kernel
  posted := by decide +kernel
  replies := ⟨singleReplies.take 1, rfl, .cons (delivers_replyOf rfl rfl) .nil⟩
  leads := .here _
  ends := .inl rfl

theorem serves_failing : Serves deskEngine failingLink "/v1/statement"
    [⟨"q3", some (pageAddress "1"), (nullPage "q3").rows, none⟩] ["/v1/statement/q1/1"]
    ⟨"q3", some (pageAddress "2"), none, some ⟨"gone", "KILLED"⟩⟩ [.drop] where
  user := by decide +kernel
  posted := by decide +kernel
  replies := ⟨failingReplies.take 2, rfl, .cons (delivers_replyOf rfl rfl)
    (.cons (delivers_replyOf rfl rfl) .nil)⟩
  leads := .next rfl rfl (by decide +kernel) (.here _)
  ends := .inr rfl

/-- The same rows give the same result, null, on three pages and on one; an error behind them is
    the result, and the page that it leads to is not asked for. -/
theorem nullRows_paged :
    Serves deskEngine spreadLink "/v1/statement"
        [⟨"q1", some (pageAddress "1"), none, none⟩,
          ⟨"q1", some (pageAddress "2"), some [], none⟩]
        ["/v1/statement/q1/1", "/v1/statement/q1/2"] (nullPage "q1") [] ∧
      (deskEngine.queryScalar spreadLink "SELECT x").1 = .ok .null ∧
      (deskEngine.queryScalar singleLink "SELECT x").1 = .ok .null ∧
      (deskEngine.queryScalar failingLink "SELECT x").1 = .error (.query "KILLED" "gone") ∧
      (deskEngine.queryScalar failingLink "SELECT x").2.replies = [.drop] ∧
      (deskEngine.queryScalar spreadLink "SELECT x").2.sent =
        [⟨"POST", "/v1/statement", [("x-trino-user", "desk"), ("x-trino-source", "dynq")],
            "SELECT x"⟩,
          ⟨"GET", "/v1/statement/q1/1", [("x-trino-user", "desk")], ""⟩,
          ⟨"GET", "/v1/statement/q1/2", [("x-trino-user", "desk")], ""⟩] := by
  have filled : ∀ row ∈ rowsOf ([⟨"q1", some (pageAddress "1"), none, none⟩,
      ⟨"q1", some (pageAddress "2"), some [], none⟩] ++ [nullPage "q1"]), row ≠ [] := by
    simp [rowsOf, Page.data, nullPage]
  obtain ⟨link, -, result⟩ := queryScalar_of_serves serves_spread "SELECT x"
  obtain ⟨value, other⟩ := result rfl filled
  obtain ⟨failed, error, -⟩ := queryScalar_of_serves serves_failing "SELECT x"
  have single := other _ _ _ _ _ _ _ "SELECT x" serves_single rfl rfl
  refine ⟨serves_spread, value, single.trans value, error _ rfl, ?_, ?_⟩
  · rw [failed]
    rfl
  · rw [link]
    rfl

end QueryDesk.Engine
