import FarmScript.Proofs.Fault.History
import FarmScript.Tutor.Exchange
import FarmScript.Tutor.Lesson

/-! # What the player is told about a response

A response goes through three hands. The exchange takes it for a completion or for a failure
(`HttpResponse.Reading`), a failure becomes a fault that may pass or stays
(`ProviderFailure.isRetryable_fault`), and the lesson passes the answer on unless there is no text
in it. For every response that arrives the three come to one verdict: the first answer as it is, or
a fault of the lesson that says whether asking again may help (`verdict_of_response`).
-/

namespace FarmScript.Tutor
set_option autoImplicit false

/-! ## Faults of failures -/

namespace ProviderFailure

theorem operation_fault (failure : ProviderFailure) :
    failure.fault.operation = "provider::complete" := by
  cases failure with
  | api status message =>
    simp only [fault]
    split <;> rfl
  | _ => rfl

/-- Trouble at the provider may pass; what the request itself caused stays. -/
theorem isRetryable_fault (failure : ProviderFailure) :
    failure.fault.isRetryable =
      match failure with
      | network _ | rateLimited _ | other _ => true
      | api status _ => decide (500 ≤ status)
      | parse _ | invalidRequest _ | authentication => false := by
  cases failure with
  | api status message =>
    by_cases hlow : status < 500
    · have hhigh : ¬ 500 ≤ status := UInt16.not_le.mpr hlow
      simp [fault, hlow, hhigh, Fault.isRetryable, Fault.withStatus, Fault.withSource]
    · have hhigh : 500 ≤ status := UInt16.not_lt.mp hlow
      simp only [fault, if_neg hlow, hhigh, decide_true]
      rfl
  | _ => rfl

end ProviderFailure

/-! ## Readings of a response -/

namespace HttpResponse

/-- Whether a status is one of success. -/
def Succeeded (response : HttpResponse) : Prop :=
  200 ≤ response.status ∧ response.status ≤ 299

instance (response : HttpResponse) : Decidable response.Succeeded :=
  inferInstanceAs (Decidable (_ ∧ _))

/-- What the exchange takes a response for. -/
inductive Reading (response : HttpResponse) : Except ProviderFailure Completion → Prop
  | refused (hstatus : ¬ response.Succeeded) : Reading response (.error response.failure)
  | garbled (hstatus : response.Succeeded) (hdecode : response.decode? = none) (reason : String) :
      Reading response (.error (.parse reason))
  | speechless {decoded : DecodedResponse} (hstatus : response.Succeeded)
      (hdecode : response.decode? = some decoded) (hchoices : decoded.choices = [])
      (reason : String) : Reading response (.error (.other reason))
  | answered {decoded : DecodedResponse} {content reason : Option String}
      {rest : List (Option String × Option String)} {completion : Completion}
      (hstatus : response.Succeeded) (hdecode : response.decode? = some decoded)
      (hchoices : decoded.choices = (content, reason) :: rest)
      (hcontent : completion.content = content) : Reading response (.ok completion)

theorem isSuccess_iff (response : HttpResponse) :
    response.isSuccess = true ↔ response.Succeeded := by
  simp [isSuccess, Succeeded]

theorem reading (response : HttpResponse) : response.Reading (Completion.ofResponse response) := by
  unfold Completion.ofResponse
  split
  · next hsuccess =>
    have hstatus := response.isSuccess_iff.mp hsuccess
    split
    · next hdecode => exact .garbled hstatus hdecode _
    · next decoded hdecode =>
      split
      · next hchoices => exact .speechless hstatus hdecode hchoices _
      · next hchoices => exact .answered hstatus hdecode hchoices rfl
  · next hsuccess => exact .refused (mt response.isSuccess_iff.mpr hsuccess)

theorem Succeeded.status_ne {response : HttpResponse} (h : response.Succeeded) :
    ¬ (response.status = 429 ∨ 500 ≤ response.status) := by
  obtain ⟨-, hle⟩ := h
  have hle' := UInt16.le_iff_toNat_le.mp hle
  rintro (heq | hge)
  · rw [heq] at hle'
    exact absurd hle' (by decide)
  · have hge' := Nat.le_trans (UInt16.le_iff_toNat_le.mp hge) hle'
    exact absurd hge' (by decide)

/-- Without success, asking again helps when the provider is busy or broken. -/
theorem isRetryable_failure (response : HttpResponse) :
    response.failure.fault.isRetryable = true ↔
      response.status = 429 ∨ 500 ≤ response.status := by
  rw [ProviderFailure.isRetryable_fault, failure]
  by_cases hbusy : response.status = 429
  · simp [hbusy]
  · by_cases hkey : response.status = 401 ∨ response.status = 403
    · have hbelow : ¬ (500 : UInt16) ≤ 401 ∧ ¬ (500 : UInt16) ≤ 403 := by decide
      rcases hkey with hkey | hkey <;> simp [hkey, hbelow]
    · by_cases hrequest : response.status = 400
      · simp [hrequest]
      · simp [hbusy, hkey, hrequest]

/-! ## The verdict -/

/-- Whether a response has an answer: it succeeded, its body can be decoded, and the first of the
answers there is `text`, with a character in it that is not blank. -/
def Answers (response : HttpResponse) (text : String) : Prop :=
  response.Succeeded ∧ ∃ decoded reason rest, response.decode? = some decoded ∧
    decoded.choices = (some text, reason) :: rest ∧ ∃ c ∈ text.toList, Text.isBlank c = false

/-- Whether a response succeeded and its body can be decoded, but has no answers in it, or the
first has no text but blanks. -/
def IsVoid (response : HttpResponse) : Prop :=
  response.Succeeded ∧ ∃ decoded, response.decode? = some decoded ∧
    (decoded.choices = [] ∨ ∃ content reason rest, decoded.choices = (content, reason) :: rest ∧
      ∀ text ∈ content, ∀ c ∈ text.toList, Text.isBlank c = true)

theorem Answers.unique {response : HttpResponse} {text text' : String}
    (h : response.Answers text) (h' : response.Answers text') : text = text' := by
  obtain ⟨-, decoded, reason, rest, hdecode, hchoices, -⟩ := h
  obtain ⟨-, decoded', reason', rest', hdecode', hchoices', -⟩ := h'
  cases hdecode.symm.trans hdecode'
  cases hchoices.symm.trans hchoices'
  rfl

section Decoded
variable {response : HttpResponse} {decoded : DecodedResponse} {content reason : Option String}
  {rest : List (Option String × Option String)}

theorem answers_iff (hstatus : response.Succeeded) (hdecode : response.decode? = some decoded)
    (hchoices : decoded.choices = (content, reason) :: rest) (text : String) :
    response.Answers text ↔
      content = some text ∧ ∃ c ∈ text.toList, Text.isBlank c = false := by
  constructor
  · rintro ⟨-, decoded', reason', rest', hdecode', hchoices', hblank⟩
    cases hdecode.symm.trans hdecode'
    cases hchoices.symm.trans hchoices'
    exact ⟨rfl, hblank⟩
  · rintro ⟨rfl, hblank⟩
    exact ⟨hstatus, decoded, reason, rest, hdecode, hchoices, hblank⟩

theorem isVoid_iff (hstatus : response.Succeeded) (hdecode : response.decode? = some decoded)
    (hchoices : decoded.choices = (content, reason) :: rest) :
    response.IsVoid ↔ ∀ text ∈ content, ∀ c ∈ text.toList, Text.isBlank c = true := by
  constructor
  · rintro ⟨-, decoded', hdecode', hnone | ⟨content', reason', rest', hchoices', hblank⟩⟩
    · cases hdecode.symm.trans hdecode'
      rw [hchoices] at hnone
      cases hnone
    · cases hdecode.symm.trans hdecode'
      cases hchoices.symm.trans hchoices'
      exact hblank
  · intro hblank
    exact ⟨hstatus, decoded, hdecode, .inr ⟨content, reason, rest, hchoices, hblank⟩⟩

theorem not_answers_of_nil (hdecode : response.decode? = some decoded)
    (hchoices : decoded.choices = []) (text : String) :
    ¬ response.Answers text := by
  rintro ⟨-, decoded', reason', rest', hdecode', hchoices', -⟩
  cases hdecode.symm.trans hdecode'
  rw [hchoices] at hchoices'
  cases hchoices'

end Decoded

end HttpResponse

/-! ## The lesson -/

/-- Whether a fault tells of a response without an answer, given what the exchange made of it: it
is the lesson's, it says that asking again may help exactly when the provider was busy, broken or
without words, and it keeps the provider's own report if there was one. -/
structure TellsOf (response : HttpResponse) (completed : Except ProviderFailure Completion)
    (fault : Fault) : Prop where
  operation_eq : fault.operation = "tutor::explain"
  isRetryable_iff : fault.isRetryable = true ↔
    response.status = 429 ∨ 500 ≤ response.status ∨ response.IsVoid
  called_iff : ("called", "provider::complete") ∈ fault.context ↔
    ∃ failure, completed = .error failure

theorem tellsOf_failure {response : HttpResponse} {failure : ProviderFailure}
    (hretry : failure.fault.isRetryable = true ↔
      response.status = 429 ∨ 500 ≤ response.status ∨ response.IsVoid) :
    TellsOf response (.error failure) (failure.fault.withOperation "tutor::explain") where
  operation_eq := Fault.operation_withOperation _ _
  isRetryable_iff := by rw [Fault.isRetryable_withOperation, hretry]
  called_iff := by
    have hcalled := Fault.called_mem_withOperation failure.fault "tutor::explain"
      (by rw [failure.operation_fault]; decide)
    rw [failure.operation_fault] at hcalled
    exact iff_of_true hcalled ⟨failure, rfl⟩

theorem tellsOf_emptyAnswer {response : HttpResponse} (hvoid : response.IsVoid)
    (completion : Completion) :
    TellsOf response (.ok completion) (emptyAnswer completion.model) where
  operation_eq := rfl
  isRetryable_iff := iff_of_true rfl (.inr (.inr hvoid))
  called_iff := by
    have hcontext : (emptyAnswer completion.model).context = [("model", completion.model)] := rfl
    refine iff_of_false ?_ (by simp)
    simp [hcontext]

section Explain
variable {provider : CompletionRequest → Except ProviderFailure Completion} {settings : Settings}
  {rules : Rules} {question context : String}

theorem explain_of_failure {failure : ProviderFailure}
    (h : provider (settings.request rules question context) = .error failure) :
    explain provider settings rules question context =
      .error (failure.fault.withOperation "tutor::explain") := by
  simp only [explain, h]

theorem explain_of_blank {completion : Completion}
    (h : provider (settings.request rules question context) = .ok completion)
    (hblank : ∀ text ∈ completion.content, ∀ c ∈ text.toList, Text.isBlank c = true) :
    explain provider settings rules question context = .error (emptyAnswer completion.model) := by
  simp only [explain, h]
  cases hcontent : completion.content with
  | none => rfl
  | some text =>
    have hall : text.toList.all Text.isBlank = true :=
      List.all_eq_true.mpr (hblank text hcontent)
    simp only [if_pos hall]

theorem explain_of_text {completion : Completion} {text : String}
    (h : provider (settings.request rules question context) = .ok completion)
    (hcontent : completion.content = some text)
    (htext : ∃ c ∈ text.toList, Text.isBlank c = false) :
    explain provider settings rules question context = .ok text := by
  have hall : ¬ text.toList.all Text.isBlank = true := by
    obtain ⟨c, hmem, hc⟩ := htext
    intro hall
    rw [List.all_eq_true.mp hall c hmem] at hc
    cases hc
  simp only [explain, h, hcontent, if_neg hall]

/-- What the lesson comes to, given how the exchange reads the response. -/
theorem explain_of_reading {response : HttpResponse}
    {completed : Except ProviderFailure Completion} (hreading : response.Reading completed)
    (h : provider (settings.request rules question context) = completed) :
    (∃ text, response.Answers text ∧
        explain provider settings rules question context = .ok text) ∨
      (∀ text, ¬ response.Answers text) ∧ ∃ fault, TellsOf response completed fault ∧
        explain provider settings rules question context = .error fault := by
  cases hreading with
  | refused hstatus =>
    refine .inr ⟨fun text hanswers => hstatus hanswers.1, _, tellsOf_failure ?_,
      explain_of_failure h⟩
    have hvoid : ¬ response.IsVoid := fun hvoid => hstatus hvoid.1
    rw [response.isRetryable_failure]
    simp [hvoid]
  | garbled hstatus hdecode reason =>
    refine .inr ⟨?_, _, tellsOf_failure ?_, explain_of_failure h⟩
    · rintro text ⟨-, decoded, _, _, hdecoded, -⟩
      cases hdecode.symm.trans hdecoded
    · refine iff_of_false (by simp [ProviderFailure.isRetryable_fault]) ?_
      rintro (hbusy | hbroken | ⟨-, decoded, hdecoded, -⟩)
      · exact hstatus.status_ne (.inl hbusy)
      · exact hstatus.status_ne (.inr hbroken)
      · cases hdecode.symm.trans hdecoded
  | speechless hstatus hdecode hchoices reason =>
    refine .inr ⟨HttpResponse.not_answers_of_nil hdecode hchoices, _, tellsOf_failure ?_,
      explain_of_failure h⟩
    have hvoid : response.IsVoid := ⟨hstatus, _, hdecode, .inl hchoices⟩
    exact iff_of_true (by rw [ProviderFailure.isRetryable_fault]) (.inr (.inr hvoid))
  | @answered decoded content reason rest completion hstatus hdecode hchoices hcontent =>
    have hanswers := HttpResponse.answers_iff hstatus hdecode hchoices
    by_cases hblank : ∀ text ∈ content, ∀ c ∈ text.toList, Text.isBlank c = true
    · have hvoid := (HttpResponse.isVoid_iff hstatus hdecode hchoices).mpr hblank
      refine .inr ⟨?_, _, tellsOf_emptyAnswer hvoid completion,
        explain_of_blank h (by rw [hcontent]; exact hblank)⟩
      intro text htext
      obtain ⟨rfl, c, hmem, hc⟩ := (hanswers text).mp htext
      rw [hblank text rfl c hmem] at hc
      cases hc
    · simp only [Classical.not_forall] at hblank
      obtain ⟨text, htext, c, hmem, hc⟩ := hblank
      have hsome : ∃ c ∈ text.toList, Text.isBlank c = false :=
        ⟨c, hmem, Bool.eq_false_iff.mpr hc⟩
      exact .inl ⟨text, (hanswers text).mpr ⟨htext, hsome⟩,
        explain_of_text h (hcontent.trans htext) hsome⟩

end Explain

/-- For every endpoint, all settings and every question, once a response has arrived: the lesson
hands over a text exactly when the response has an answer, and the text is this answer as it is. In
every other case it reports a fault of its own. Asking again may help exactly when the status says
so or when the response succeeded with nothing in it; and the fault keeps the report of the
provider exactly when it was the provider that failed. -/
theorem verdict_of_response (endpoint : Endpoint) (settings : Settings) (rules : Rules)
    (question context : String) (server : HttpRequest → Option HttpResponse)
    {posted : HttpRequest} {response : HttpResponse}
    (hposted : endpoint.request? (settings.request rules question context) = some posted)
    (hserver : server posted = some response) :
    let completed := endpoint.complete server (settings.request rules question context)
    let told := explain (endpoint.complete server) settings rules question context
    (∀ text, told = .ok text ↔ response.Answers text) ∧
      ((∀ text, ¬ response.Answers text) →
        ∃ fault, told = .error fault ∧ fault.operation = "tutor::explain" ∧
          (fault.isRetryable = true ↔
            response.status = 429 ∨ 500 ≤ response.status ∨ response.IsVoid) ∧
          (("called", "provider::complete") ∈ fault.context ↔
            ∃ failure, completed = .error failure)) := by
  intro completed told
  have hcompleted : completed = Completion.ofResponse response := by
    simp only [completed, Endpoint.complete, hposted, hserver]
  have hreading : response.Reading completed := hcompleted ▸ response.reading
  have htold : (∃ text, response.Answers text ∧ told = .ok text) ∨
      (∀ text, ¬ response.Answers text) ∧ ∃ fault, TellsOf response completed fault ∧
        told = .error fault := explain_of_reading hreading rfl
  rcases htold with ⟨text, hanswers, htext⟩ | ⟨hnone, fault, htells, hfault⟩
  · refine ⟨fun text' => ?_, fun hnone => absurd hanswers (hnone text)⟩
    rw [htext]
    constructor
    · intro heq
      cases heq
      exact hanswers
    · intro hanswers'
      rw [hanswers.unique hanswers']
  · refine ⟨fun text => iff_of_false (by simp [hfault]) (hnone text), fun _ => ?_⟩
    exact ⟨fault, hfault, htells.operation_eq, htells.isRetryable_iff, htells.called_iff⟩

/-- An answer with blanks around it is handed over with them. If the first answer is blank, the
second does not count, and the fault says that asking again may help. -/
theorem verdict_of_response_blanks :
    let endpoint := Endpoint.hosted "key"
    let ask (response : HttpResponse) :=
      explain (endpoint.complete fun _ => some response) Settings.default Rules.default "why" "1"
    let body (content : String) :=
      "\x7b\"choices\":[\x7b\"message\":\x7b\"role\":\"\",\"content\":\"" ++ content ++
        "\"\x7d\x7d,\x7b\"message\":\x7b\"role\":\"\",\"content\":\"b\"\x7d\x7d]\x7d"
    (endpoint.request? (Settings.default.request Rules.default "why" "1")).isSome = true ∧
      ask ⟨200, none, body " a "⟩ = .ok " a " ∧
      ∃ fault, ask ⟨200, none, body "  "⟩ = .error fault ∧ fault.isRetryable = true := by
  intro endpoint ask body
  have hsent : (endpoint.request? (Settings.default.request Rules.default "why" "1")).isSome =
      true := by decide +kernel
  obtain ⟨posted, hposted⟩ := Option.isSome_iff_exists.mp hsent
  have hverdict (response : HttpResponse) := verdict_of_response endpoint Settings.default
    Rules.default "why" "1" (fun _ => some response) hposted rfl
  refine ⟨hsent, ?_, ?_⟩
  · have hdecode : HttpResponse.decode? ⟨200, none, body " a "⟩ =
        some ⟨"", "", [(some " a ", none), (some "b", none)], none⟩ := by decide +kernel
    have hanswers := (HttpResponse.answers_iff (by decide) hdecode rfl " a ").mpr
      ⟨rfl, 'a', by decide, by decide⟩
    exact ((hverdict _).1 " a ").mpr hanswers
  · have hdecode : HttpResponse.decode? ⟨200, none, body "  "⟩ =
        some ⟨"", "", [(some "  ", none), (some "b", none)], none⟩ := by decide +kernel
    have hblank : ∀ c ∈ "  ".toList, Text.isBlank c = true := List.all_eq_true.mp (by decide)
    have hvoid := (HttpResponse.isVoid_iff (by decide) hdecode rfl).mpr (by simpa using hblank)
    have hnone (text : String) : ¬ HttpResponse.Answers ⟨200, none, body "  "⟩ text := by
      intro hanswers
      obtain ⟨htext, c, hmem, hc⟩ :=
        (HttpResponse.answers_iff (by decide) hdecode rfl text).mp hanswers
      cases htext
      rw [hblank c hmem] at hc
      cases hc
    obtain ⟨fault, hfault, -, hretry, -⟩ := (hverdict _).2 hnone
    exact ⟨fault, hfault, hretry.mpr (.inr (.inr hvoid))⟩

end FarmScript.Tutor
