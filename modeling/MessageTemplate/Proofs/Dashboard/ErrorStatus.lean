import MessageTemplate.Proofs.Dashboard.Answers

/-!
# Answers that report an error

* `Refusal.Reports` — a refusal that passes the status of an answer on;
* `Dashboard.request_errorStatus` — a request is refused with the status of the answer exactly if
  the answer has no body, or a body that is a document;
* `Dashboard.badGateway_status` — the page that a gateway sends in place of the dashboard is none,
  and its status is lost.
-/

set_option autoImplicit false

namespace MessageTemplate

/-- The document could be read. -/
def Document.IsValue (document : Document) : Prop := ∃ content, document = .value content

/-- The refusal has the status of the answer, and says that the request may succeed later exactly
where the status says so. -/
structure Refusal.Reports (refusal : Refusal) (status : Int) : Prop where
  status_eq : refusal.status = status
  retryable_iff : refusal.retryable = true ↔
    status = 429 ∨ status = 500 ∨ status = 502 ∨ status = 503 ∨ status = 504

namespace Dashboard

theorem refusalOf_reports (status : Int) (content : Data) :
    (refusalOf status content).Reports status where
  status_eq := rfl
  retryable_iff := by simp [refusalOf, isPassing]

/-- A body that is no document is refused in one way, whatever the status. -/
theorem result_no_document {status : Int} {document : Document} (h : ¬ document.IsValue)
    (hshallow : document ≠ .tooDeep) :
    (Reply.response status (some document)).result = .error (.refused .invalidDocument) := by
  cases document with
  | value content => exact absurd ⟨content, rfl⟩ h
  | tooDeep => exact absurd rfl hshallow
  | malformed position => rfl
  | numeral error => rfl
  | undecodable => rfl

theorem not_reports_invalidDocument {status : Int} (hstatus : 400 ≤ status) :
    ¬ Refusal.invalidDocument.Reports status := by
  intro h
  have hnone : Refusal.noAnswer = status := h.status_eq
  have hnegative : Refusal.noAnswer = -1 := rfl
  omega

/-- **An error keeps its status exactly if the answer can be read**: if it has no body, or one that
is a document. A body that is no document is refused as such, and one that is nested too deeply is
a failure. -/
theorem request_errorStatus (d : Dashboard) (method : Method) (endpoint : String)
    (payload : Option Data) {t : Traffic} {status : Int} {body : Option Document}
    (hreply : t.reply = .response status body) (hstatus : 400 ≤ status) :
    ((∃ refusal, ((d.request method endpoint payload).outcome t).1 = .error (.refused refusal) ∧
        refusal.Reports status) ↔ ∀ document ∈ body, document.IsValue) ∧
    (∀ document ∈ body, ¬ document.IsValue → document ≠ .tooDeep →
      ((d.request method endpoint payload).outcome t).1 = .error (.refused .invalidDocument)) ∧
    (body = some .tooDeep →
      ((d.request method endpoint payload).outcome t).1 = .error (.failed .tooDeep)) := by
  rw [request_outcome, hreply]
  refine ⟨⟨?_, ?_⟩, ?_, ?_⟩
  · rintro ⟨refusal, hrefused, hreports⟩ document rfl
    by_contra hnone
    by_cases hdeep : document = .tooDeep
    · subst hdeep
      cases hrefused
    · rw [result_no_document hnone hdeep] at hrefused
      cases hrefused
      exact not_reports_invalidDocument hstatus hreports
  · intro hvalue
    cases body with
    | none => exact ⟨_, answered_reported hstatus .null, refusalOf_reports _ _⟩
    | some document =>
      obtain ⟨content, rfl⟩ := hvalue document rfl
      exact ⟨_, answered_reported hstatus content, refusalOf_reports _ _⟩
  · rintro document rfl hnone hshallow
    exact result_no_document hnone hshallow
  · rintro rfl
    rfl

/-- A dashboard that is down, and says so in a document. -/
def down : Reply :=
  .response 503 (some (.value (.object [("error", .object [("message", .str "Down")])])))

theorem request_errorStatus_down :
    (400 : Int) ≤ 503 ∧ ∃ refusal,
      ((request ⟨defaultAddress, none⟩ .get allTemplates).outcome { pending := [down] }).1 =
        .error (.refused refusal) ∧ refusal.status = 503 ∧ refusal.retryable = true := by
  have hstatus : (400 : Int) ≤ 503 := by decide
  have hreply : Traffic.reply { pending := [down] } = down := rfl
  obtain ⟨hkeeps, _, _⟩ :=
    request_errorStatus ⟨defaultAddress, none⟩ .get allTemplates none hreply hstatus
  obtain ⟨refusal, hrefused, hreports⟩ := hkeeps.mpr fun document hdocument =>
    ⟨_, (Option.mem_some.mp hdocument).symm⟩
  refine ⟨hstatus, refusal, hrefused, hreports.status_eq, ?_⟩
  exact hreports.retryable_iff.mpr (by decide)

/-- What a gateway shows in place of the dashboard. -/
def gatewayPage : String := "<html><body>Bad Gateway</body></html>"

/-- The answer of a gateway. -/
def badGateway : Reply := .ofText 502 gatewayPage

theorem badGateway_eq : badGateway = .response 502 (some (.malformed 0)) := by
  have hfilled : gatewayPage.isEmpty = false := by decide +kernel
  have hutf8 : Text.Encoding.ofBytes gatewayPage.toUTF8.toList = .utf8 := by decide +kernel
  have hchars : Text.Encoding.utf8.decode? gatewayPage.toUTF8.toList = some gatewayPage.toList := by
    decide +kernel
  have hdocument : Document.ofBytes gatewayPage.toUTF8.toList = .malformed 0 := by
    unfold Document.ofBytes
    simp only [hutf8, hchars]
    rfl
  unfold badGateway Reply.ofText
  rw [hfilled, hdocument]
  rfl

/-- **A page in place of a document loses its status**, although the same request may succeed
later. -/
theorem badGateway_status :
    (∃ body, badGateway = .response 502 body) ∧
      ((request ⟨defaultAddress, none⟩ .get allTemplates).outcome { pending := [badGateway] }).1 =
        .error (.refused .invalidDocument) ∧
      Refusal.invalidDocument.status = -1 ∧ Refusal.invalidDocument.retryable = false ∧
      isPassing 502 = true := by
  refine ⟨⟨_, badGateway_eq⟩, ?_, rfl, rfl, rfl⟩
  rw [request_outcome, badGateway_eq]
  rfl

end Dashboard

end MessageTemplate
