import LiveTrader.Proofs.Requests

/-!
  LiveTrader.Proofs.QueryText

  What the target of a request says.  Keys and values stand in it as they are, without escapes, so
  a path and its parameters are found again by the marks between them just if no part holds a mark
  that would end it: a path no question mark, a key no equals sign, and neither a key nor a value
  an ampersand.  What the operations of an adapter ask for is found again unless the caller's own
  texts hold an ampersand.
-/

namespace LiveTrader

/-! ## Marks in texts -/

namespace Text

/-- What stands before and what stands behind the first of a mark, if there is one. -/
def cutAt? (mark : Char) : List Char → Option (List Char × List Char)
  | [] => none
  | c :: cs =>
    if c = mark then some ([], cs)
    else (cutAt? mark cs).map fun (before, behind) => (c :: before, behind)

theorem cutAt?_eq_none_iff {mark : Char} {cs : List Char} :
    cutAt? mark cs = none ↔ mark ∉ cs := by
  induction cs with
  | nil => simp [cutAt?]
  | cons c cs ih =>
    rw [cutAt?, List.mem_cons, not_or]
    split
    case isTrue heq => simp [heq]
    case isFalse hne => simp [ih, Ne.symm hne]

theorem cutAt?_eq_some_iff {mark : Char} {cs before behind : List Char} :
    cutAt? mark cs = some (before, behind) ↔ cs = before ++ mark :: behind ∧ mark ∉ before := by
  induction cs generalizing before with
  | nil => simp [cutAt?]
  | cons c cs ih =>
    rw [cutAt?]
    split
    case isTrue heq =>
      subst heq
      cases before with
      | nil => simp
      | cons d before =>
        -- then the mark would be the first of what stands before it
        refine iff_of_false (by simp) fun ⟨hcs, hout⟩ => hout ?_
        exact List.mem_cons.mpr (.inl (List.cons.inj hcs).1)
    case isFalse hne =>
      cases before with
      | nil => simp [hne]
      | cons d before =>
        constructor
        · intro h
          obtain ⟨⟨before', behind'⟩, hcut, heq⟩ := Option.map_eq_some_iff.mp h
          cases heq
          obtain ⟨rfl, hout⟩ := ih.mp hcut
          exact ⟨rfl, by simp [hout, Ne.symm hne]⟩
        · rintro ⟨hcs, hout⟩
          obtain ⟨rfl, rfl⟩ := List.cons.inj hcs
          rw [ih.mpr ⟨rfl, fun h => hout (List.mem_cons_of_mem _ h)⟩]
          rfl

/-- No piece between marks holds the mark. -/
theorem not_mem_of_mem_splitOn {mark : Char} {cs piece : List Char}
    (h : piece ∈ cs.splitOn mark) : mark ∉ piece := by
  -- on the text; a character either ends the first piece or goes to its front
  induction cs generalizing piece with
  | nil =>
    rw [List.splitOn_nil, List.mem_singleton] at h
    simp [h]
  | cons c cs ih =>
    rw [List.splitOn_cons_eq_if_modifyHead] at h
    split at h
    case isTrue =>
      rcases List.mem_cons.mp h with rfl | h
      · exact List.not_mem_nil
      · exact ih h
    case isFalse hne =>
      obtain ⟨first, rest, hsplit⟩ := List.exists_cons_of_ne_nil (List.splitOn_ne_nil mark cs)
      rw [hsplit, List.modifyHead_cons] at h
      rw [hsplit] at ih
      rcases List.mem_cons.mp h with rfl | h
      · -- the character that the first piece begins with is no mark
        have hfirst := ih List.mem_cons_self
        rw [List.mem_cons, not_or]
        exact ⟨fun heq => hne (by simp [heq]), hfirst⟩
      · exact ih (List.mem_cons_of_mem _ h)

end Text

namespace Request

/-! ## Reading a target -/

/-- The key and the value of a piece of a query, which the first equals sign separates. -/
def parameter? (piece : List Char) : Option (String × String) :=
  (Text.cutAt? '=' piece).map fun (key, value) => (String.ofList key, String.ofList value)

/-- The path of a target, and its pieces between ampersands as parameters. -/
def splitTarget (target : String) : String × List (Option (String × String)) :=
  match Text.cutAt? '?' target.toList with
  | none => (target, [])
  | some (path, query) => (String.ofList path, (query.splitOn '&').map parameter?)

/-- Neither the key nor the value of a parameter holds a mark that would end it. -/
structure IsPlain (p : String × String) : Prop where
  equals_not_mem_key : '=' ∉ p.1.toList
  ampersand_not_mem_key : '&' ∉ p.1.toList
  ampersand_not_mem_value : '&' ∉ p.2.toList

/-- What is read of a request's target is its path and its query. -/
def IsTold (r : Request) : Prop :=
  splitTarget r.pathAndQuery = (r.path, r.query.map some)

/-- A parameter as it is sent. -/
def parameterChars (p : String × String) : List Char :=
  p.1.toList ++ '=' :: p.2.toList

theorem parameter?_eq_some_iff {piece : List Char} {p : String × String} :
    parameter? piece = some p ↔ piece = parameterChars p ∧ '=' ∉ p.1.toList := by
  obtain ⟨key, value⟩ := p
  unfold parameter? parameterChars
  rw [Option.map_eq_some_iff]
  constructor
  · rintro ⟨⟨before, behind⟩, hcut, heq⟩
    cases heq
    rw [String.toList_ofList, String.toList_ofList]
    exact Text.cutAt?_eq_some_iff.mp hcut
  · intro h
    exact ⟨(key.toList, value.toList), Text.cutAt?_eq_some_iff.mpr h, by simp⟩

theorem queryChars_eq (query : List (String × String)) :
    queryChars query = ['&'].intercalate (query.map parameterChars) := by
  induction query using queryChars.induct with
  | case1 => rfl
  | case2 key value => simp [queryChars, parameterChars]
  | case3 key value rest hne ih =>
    obtain ⟨p, rest, rfl⟩ := List.exists_cons_of_ne_nil hne
    rw [queryChars, ih]
    · simp [parameterChars]
    · simp

/-- Whatever the text, only plain parameters are read of it. -/
theorem isPlain_of_mem_splitTarget (target : String) {p : String × String}
    (h : some p ∈ (splitTarget target).2) : IsPlain p := by
  unfold splitTarget at h
  split at h
  case h_1 => exact absurd h List.not_mem_nil
  case h_2 path query hcut =>
    obtain ⟨piece, hpiece, hread⟩ := List.mem_map.mp h
    obtain ⟨rfl, hkey⟩ := parameter?_eq_some_iff.mp hread
    -- the piece comes from between ampersands, so it holds none
    have hnone := Text.not_mem_of_mem_splitOn hpiece
    rw [parameterChars, List.mem_append, List.mem_cons, not_or, not_or] at hnone
    exact ⟨hkey, hnone.1, hnone.2.2⟩

/-- A path without a question mark and plain parameters are read as they were written. -/
theorem splitTarget_targetChars {path : String} {query : List (String × String)}
    (hpath : '?' ∉ path.toList) (h : ∀ p ∈ query, IsPlain p) :
    splitTarget (String.ofList (targetChars path query)) = (path, query.map some) := by
  unfold splitTarget targetChars
  rw [String.toList_ofList]
  cases query with
  | nil =>
    rw [List.isEmpty_nil, if_pos rfl, Text.cutAt?_eq_none_iff.mpr hpath]
    simp
  | cons p rest =>
    rw [List.isEmpty_cons, if_neg Bool.false_ne_true, Text.cutAt?_eq_some_iff.mpr ⟨rfl, hpath⟩]
    have hpieces : ∀ piece ∈ (p :: rest).map parameterChars, '&' ∉ piece := by
      -- nothing is escaped, so it is by `IsPlain` that no piece is cut further
      intro piece hpiece
      obtain ⟨q, hq, rfl⟩ := List.mem_map.mp hpiece
      have hplain := h q hq
      simp [parameterChars, hplain.ampersand_not_mem_key, hplain.ampersand_not_mem_value]
    have hread : ∀ q ∈ p :: rest, parameter? (parameterChars q) = some q := fun q hq =>
      parameter?_eq_some_iff.mpr ⟨rfl, (h q hq).equals_not_mem_key⟩
    dsimp only
    rw [queryChars_eq, List.splitOn_intercalate '&' hpieces (by simp), List.map_map,
      String.ofList_toList]
    exact congrArg _ (List.map_congr_left hread)

/-- **The text of a target says what the path and the query are** just if the query is plain. -/
theorem isTold_iff {r : Request} (hpath : '?' ∉ r.path.toList) :
    r.IsTold ↔ ∀ p ∈ r.query, IsPlain p := by
  refine ⟨fun h p hp => ?_, splitTarget_targetChars hpath⟩
  refine isPlain_of_mem_splitTarget r.pathAndQuery ?_
  rw [h]
  exact List.mem_map_of_mem hp

end Request

namespace Gmo

/-! ## What operations ask for -/

/-- The texts of the caller that a private operation puts into its query. -/
def PrivateOperation.queryTexts : PrivateOperation → List String
  | .balances _ => []
  | .positions symbol => [symbol]
  | .order (.place _) => []
  | .order (.cancel _) => []
  | .order (.fetch orderId) => [orderId]

/-- The texts of the caller that a public operation puts into its queries. -/
def PublicOperation.queryTexts : PublicOperation → List String
  | .ticker symbol => [symbol]
  | .klines symbol interval _ _ _ => [symbol, interval]

/-- Where the path and the keys hold no marks it is for the values not to hold an ampersand. -/
theorem Request.isTold_iff_values {r : Request} (hpath : '?' ∉ r.path.toList)
    (hkeys : ∀ p ∈ r.query, '=' ∉ p.1.toList ∧ '&' ∉ p.1.toList) :
    r.IsTold ↔ ∀ p ∈ r.query, '&' ∉ p.2.toList := by
  rw [Request.isTold_iff hpath]
  exact forall₂_congr fun p hp =>
    ⟨fun h => h.ampersand_not_mem_value, fun h => ⟨(hkeys p hp).1, (hkeys p hp).2, h⟩⟩

theorem PrivateOperation.isTold_iff {op : PrivateOperation} {r : Request} (h : op.call.IsOf r) :
    r.IsTold ↔ ∀ text ∈ op.queryTexts, '&' ∉ text.toList := by
  have hcall : '?' ∉ op.call.path.toList ∧
      (∀ p ∈ op.call.query, '=' ∉ p.1.toList ∧ '&' ∉ p.1.toList) ∧
        op.call.query.map Prod.snd = op.queryTexts := by
    rcases op with _ | _ | (_ | _ | _) <;>
      simp [PrivateOperation.call, OrderOperation.call, placeCall, cancelCall, fetchCall,
        PrivateOperation.queryTexts]
  obtain ⟨hpath, hkeys, htexts⟩ := hcall
  rw [Request.isTold_iff_values (h.path ▸ hpath) (h.query ▸ hkeys), h.query, ← htexts,
    List.forall_mem_map]

/-- A date parameter is made of digits, with a sign in front for some years. -/
theorem mem_dateParam {interval : String} {day : Int} {c : Char}
    (h : c ∈ (dateParam interval day).toList) : c.isDigit = true ∨ c = '-' ∨ c = '+' := by
  have hyear : ∀ {year : Int}, c ∈ Date.yearChars year → c.isDigit = true ∨ c = '-' ∨ c = '+' := by
    intro year hc
    unfold Date.yearChars at hc
    split at hc
    · exact .inl (Text.isDigit_of_mem_padded hc)
    · rcases List.mem_cons.mp hc with rfl | hc
      · split <;> simp
      · exact .inl (Text.isDigit_of_mem_padded hc)
  unfold dateParam at h
  rw [String.toList_ofList] at h
  split at h
  · unfold Date.compactChars at h
    rw [List.mem_append, List.mem_append] at h
    rcases h with (hc | hc) | hc
    · exact hyear hc
    · exact .inl (Text.isDigit_of_mem_padded hc)
    · exact .inl (Text.isDigit_of_mem_padded hc)
  · exact hyear h

theorem PublicOperation.isTold_iff {op : PublicOperation} {requests : List Request}
    (h : op.requests? = some requests) {r : Request} (hr : r ∈ requests) :
    r.IsTold ↔ ∀ text ∈ op.queryTexts, '&' ∉ text.toList := by
  cases op with
  | ticker symbol =>
    cases h
    obtain rfl := List.mem_singleton.mp hr
    rw [Request.isTold_iff_values (by simp [publicRequest]) (by simp [publicRequest])]
    simp [publicRequest, queryTexts]
  | klines symbol interval start finish limit =>
    rw [requests?] at h
    split at h
    case isTrue =>
      cases h
      exact absurd hr List.not_mem_nil
    case isFalse =>
      obtain ⟨dates, hdates, rfl⟩ := Option.map_eq_some_iff.mp h
      obtain ⟨date, hdate, rfl⟩ := List.mem_map.mp hr
      obtain ⟨days, -, rfl⟩ := Option.map_eq_some_iff.mp hdates
      obtain ⟨day, -, rfl⟩ := List.mem_map.mp (mem_dropRepeats_iff.mp hdate)
      -- the date is of the adapter's own making and holds no ampersand
      have hnone : '&' ∉ (dateParam interval day).toList := fun hmem => by
        rcases mem_dateParam hmem with hc | hc | hc <;> cases hc
      rw [Request.isTold_iff_values (by simp [dateRequest, publicRequest])
        (by simp [dateRequest, publicRequest])]
      simp [dateRequest, publicRequest, queryTexts, hnone]

namespace Adapter

variable {σ : Type}

/-- Every request of a public operation is one of those that it needs. -/
theorem AsksPublicly.mem_requests {a : Adapter (StateM σ)} {op : PublicOperation} {s : σ}
    (h : a.AsksPublicly op s) {requests : List Request} (hrequests : op.requests? = some requests) :
    ∃ act, a.traced.performPublic? op = some act ∧
      ∀ r ∈ sent (act.run ⟨s, []⟩).2.trace, r ∈ requests := by
  obtain ⟨traced, -, htraced, -, -, hasks⟩ := h.2 requests hrequests
  exact ⟨traced, htraced, fun r hr => hasks.inOrder.subset hr⟩

theorem asksPublicly (a : Adapter (StateM σ)) (op : PublicOperation) (s : σ) :
    a.AsksPublicly op s := by
  cases op with
  | ticker symbol => exact a.ticker_asksPublicly symbol s
  | klines symbol interval start finish limit =>
    exact a.klines_asksPublicly symbol interval start finish limit s

/-- **The text of a query says what the query is** just if it is plain, and no text says one that
    is not.  What an adapter signs and sends has the path and the parameters of the operation, and
    says so just if none of the texts that the caller put into the query holds an ampersand. -/
theorem queries_readBack :
    (∀ r : Request, '?' ∉ r.path.toList → (r.IsTold ↔ ∀ p ∈ r.query, Request.IsPlain p)) ∧
    (∀ (target path : String) (query : List (String × String)),
      Request.splitTarget target = (path, query.map some) → ∀ p ∈ query, Request.IsPlain p) ∧
    ∀ (σ : Type) (a : Adapter (StateM σ)) (s : σ),
      (∀ op : PrivateOperation, ∀ r ∈ sent ((a.traced.perform op).run ⟨s, []⟩).2.trace,
        op.call.IsOf r ∧ (∃ credentials millis, SignedAt credentials millis r) ∧
          (r.IsTold ↔ ∀ text ∈ op.queryTexts, '&' ∉ text.toList)) ∧
      ∀ op : PublicOperation, ∀ requests, op.requests? = some requests →
        ∃ act, a.traced.performPublic? op = some act ∧
          ∀ r ∈ sent (act.run ⟨s, []⟩).2.trace, r ∈ requests ∧
            (r.IsTold ↔ ∀ text ∈ op.queryTexts, '&' ∉ text.toList) := by
  refine ⟨fun r => Request.isTold_iff, fun target path query h p hp => ?_, fun σ a s =>
    ⟨fun op r hr => ?_, fun op requests hrequests => ?_⟩⟩
  · refine Request.isPlain_of_mem_splitTarget target ?_
    rw [h]
    exact List.mem_map_of_mem hp
  · obtain ⟨outcome, hcourse, -⟩ := (a.perform_ends op s).run
    obtain ⟨credentials, millis, -, rfl⟩ := hcourse.exists_sign hr
    exact ⟨op.call.isOf_sign _ _, ⟨credentials, millis, op.call.signedAt_sign _ _⟩,
      op.isTold_iff (op.call.isOf_sign _ _)⟩
  · obtain ⟨act, hact, hmem⟩ := (a.asksPublicly op s).mem_requests hrequests
    exact ⟨act, hact, fun r hr => ⟨hmem r hr, op.isTold_iff hrequests (hmem r hr)⟩⟩

/-- The request to read an order whose id holds an ampersand says that there is one parameter
    more, and another id. -/
theorem parameter_added :
    let orderId := "1&symbol=BTC_JPY"
    let script := ScriptedGateway.of [] (.ok .null) [] 0
    let run := (scriptedAdapter.traced.fetchOrder orderId).run ⟨script, []⟩
    ∃ r ∈ sent run.2.trace, '?' ∉ r.path.toList ∧ r.query = [("orderId", orderId)] ∧
      Request.splitTarget r.pathAndQuery =
        ("/private/v1/orders", [some ("orderId", "1"), some ("symbol", "BTC_JPY")]) := by
  intro orderId script run
  obtain ⟨outcome, hcourse, -⟩ := (scriptedAdapter.performOrder_ends (.fetch orderId) script).run
  have hsends : scriptedAdapter.SendsSigned (.order (.fetch orderId)) _ _ := hcourse.sendsSigned
  obtain ⟨r, hr⟩ := List.exists_mem_of_ne_nil _
    (hsends.sends rfl (Option.some_ne_none _) (by decide))
  have hcontent := hsends.content r hr
  have hpath : r.path = "/private/v1/orders" := hcontent.path
  have hquery : r.query = [("orderId", orderId)] := hcontent.query
  refine ⟨r, hr, ?_, hquery, ?_⟩
  · rw [hpath]
    decide
  · rw [Request.pathAndQuery, hpath, hquery]
    decide +kernel

end Adapter

end Gmo

end LiveTrader
