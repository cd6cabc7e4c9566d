import Mathlib.Data.List.Basic
import PagePatch.Proofs.Text.Percent
import PagePatch.Proofs.Text.Splitting
import PagePatch.Request.Basic

namespace PagePatch.Request

/-!
# The body of a request, read back

A body is taken apart at its ampersands, and each piece at its first equals sign. Whatever texts the
fields of a request hold, they are found again, in their order.

* `readBody` — the fields that a body stands for;
* `readBody_formBody` — they are the form fields of the request;
* `slots`, `sent` — the fields that a request can have, each with its value if there is one;
* `fieldsFor` — the fields that are sent for a caller's options, with at most one token;
* `Transmits`, `transmits_build` — what is read from the body of a request as it is built.
-/

/-! ### Reading a body -/

/-- The field that a `piece` of a body stands for: a name and, behind the first equals sign, a
    value, both of them decoded. -/
def readField (piece : List Char) : Option (String × String) :=
  match Text.splitFirst '=' piece with
  | (_, none) => none
  | (name, some value) =>
    (Text.percentDecode name).bind fun name => (Text.percentDecode value).map fun value =>
      (name, value)

/-- The fields that `body` stands for, if all of its pieces can be read by `readField`. -/
def readBody (body : String) : Option (List (String × String)) :=
  (body.toList.splitOn '&').mapM readField

/-- The characters of the encoded `field`: its name and its value, with an equals sign between
    them. -/
theorem toList_encodeField (field : String × String) : (encodeField field).toList =
    (Text.percentEncode field.1).toList ++ '=' :: (Text.percentEncode field.2).toList := by
  rw [encodeField, String.toList_append, String.toList_append, List.append_assoc]
  rfl

/-- The `field` is read from its encoding, as the first equals sign is the one that was put
    there. -/
theorem readField_encodeField (field : String × String) :
    readField (encodeField field).toList = some field := by
  have hname : '=' ∉ (Text.percentEncode field.1).toList :=
    Text.not_mem_percentEncode (by decide) (by decide) field.1
  rw [readField, toList_encodeField, Text.splitFirst_append_cons hname]
  simp only [Text.percentDecode_percentEncode, Option.bind_some, Option.map_some]

/-- No ampersand stands in the encoded `field`. -/
theorem ampersand_not_mem_encodeField (field : String × String) :
    '&' ∉ (encodeField field).toList := by
  have hencoded : ∀ s, '&' ∉ (Text.percentEncode s).toList :=
    Text.not_mem_percentEncode (by decide) (by decide)
  rw [toList_encodeField, List.mem_append, List.mem_cons, not_or, not_or]
  exact ⟨hencoded field.1, by decide, hencoded field.2⟩

theorem mapM_readField (fields : List (String × String)) :
    (fields.map fun field => (encodeField field).toList).mapM readField = some fields := by
  induction fields with
  | nil => rfl
  | cons field fields ih =>
    rw [List.map_cons, List.mapM_cons, readField_encodeField, ih]
    rfl

/-- **The fields that are read** from the body of a request `r` are those that were written. -/
theorem readBody_formBody (r : Request) : readBody r.formBody = some r.formFields := by
  have hpieces : r.formBody.toList =
      ['&'].intercalate (r.formFields.map fun field => (encodeField field).toList) := by
    rw [formBody, String.toList_intercalate, List.map_map]
    rfl
  have hsplit : r.formBody.toList.splitOn '&' =
      r.formFields.map fun field => (encodeField field).toList := by
    -- the only ampersands are those between the fields
    rw [hpieces]
    refine List.splitOn_intercalate '&' ?_ (List.cons_ne_nil _ _)
    intro piece hpiece
    obtain ⟨field, -, rfl⟩ := List.mem_map.mp hpiece
    exact ampersand_not_mem_encodeField field
  rw [readBody, hsplit, mapM_readField]

example : readBody "q=a%20b%26c&e=%C3%A9" = some [("q", "a b&c"), ("e", "é")] := by decide +kernel

/-! ### The fields of a request -/

/-- The `ids` as one text, if there are any. -/
def joined? (ids : List String) : Option String :=
  if ids = [] then none else some (" ".intercalate ids)

/-- The fields that a request can have of its own, in the order in which they are sent, each with
    its value if there is one. The `token` is the last of them. -/
def slots (source : String) (event : Option String) (execute render : List String) (reset : Bool)
    (token : Option String) : List (String × Option String) :=
  [("javax.faces.source", some source),
    ("javax.faces.partial.event", event),
    ("javax.faces.behavior.event", event),
    ("javax.faces.partial.execute", joined? execute),
    ("javax.faces.partial.render", joined? render),
    ("javax.faces.partial.ajax", some "true"),
    ("javax.faces.partial.resetValues", if reset then some "true" else none),
    ("javax.faces.ViewState", token)]

/-- The fields among the `slots` that have a value. -/
def sent (slots : List (String × Option String)) : List (String × String) :=
  slots.filterMap fun (name, value) => value.map fun value => (name, value)

@[simp] theorem sent_append (front back : List (String × Option String)) :
    sent (front ++ back) = sent front ++ sent back :=
  List.filterMap_append

theorem idField_eq (name : String) (ids : List String) :
    idField name ids = sent [(name, joined? ids)] := by
  cases ids with
  | nil => rfl
  | cons id ids => rfl

/-- The form fields of `r` are the request's own, and behind them those that are passed through. -/
theorem formFields_eq (r : Request) : r.formFields =
    sent (slots r.source r.event r.execute r.render r.resetValues r.viewState) ++ r.params := by
  have hevent : (r.event.toList.flatMap fun e =>
      [("javax.faces.partial.event", e), ("javax.faces.behavior.event", e)]) =
        sent [("javax.faces.partial.event", r.event), ("javax.faces.behavior.event", r.event)] := by
    cases r.event <;> rfl
  have hreset : (if r.resetValues then [("javax.faces.partial.resetValues", "true")] else []) =
      sent [("javax.faces.partial.resetValues", if r.resetValues then some "true" else none)] := by
    cases r.resetValues <;> rfl
  have htoken : (r.viewState.toList.map fun token => (viewStateField, token)) =
      sent [("javax.faces.ViewState", r.viewState)] := by
    cases r.viewState <;> rfl
  rw [formFields, idField_eq, idField_eq, hevent, hreset, htoken]
  show sent [("javax.faces.source", some r.source)] ++ _ ++ _ ++ _ ++
    sent [("javax.faces.partial.ajax", some "true")] ++ _ ++ _ ++ _ = _
  simp only [← sent_append]
  rfl

/-- A field is sent as often as it stands among the `slots` with a value. -/
theorem count_sent (name : String) (slots : List (String × Option String)) :
    ((sent slots).map Prod.fst).count name = slots.countP fun s => s.1 == name && s.2.isSome := by
  induction slots with
  | nil => rfl
  | cons s slots ih =>
    obtain ⟨slot, value⟩ := s
    cases value with
    | none => simpa [sent] using ih
    | some value => simpa [sent, List.countP_cons, List.count_cons] using ih

/-- One of the request's own fields is the `token`, if there is one; no other field has its name. -/
theorem count_slots (source : String) (event : Option String) (execute render : List String)
    (reset : Bool) (token : Option String) :
    (slots source event execute render reset token).countP
      (fun s => s.1 == viewStateField && s.2.isSome) = if token.isSome then 1 else 0 := by
  simp [slots, viewStateField, List.countP_cons]

/-! ### The body of a request as it is built -/

/-- The token of a request: that of the first parameter for it, or else the one that is `given`
    later. -/
def tokenOf (params : List (String × String)) (given : Option String) : Option String :=
  ((params.find? fun p => p.1 = viewStateField).map Prod.snd).or given

theorem lookup_eq_find? (name : String) (params : List (String × String)) :
    params.lookup name = (params.find? fun p => p.1 = name).map Prod.snd := by
  induction params with
  | nil => rfl
  | cons p params ih =>
    obtain ⟨key, value⟩ := p
    by_cases hkey : key = name
    · rw [hkey, List.lookup_cons_self, List.find?_cons_of_pos (by simp), Option.map_some]
    · have hne : (name == key) = false := beq_false_of_ne (Ne.symm hkey)
      rw [List.lookup_cons, hne, List.find?_cons_of_neg (by simpa using hkey)]
      exact ih

/-- The `params` that are passed through do not have the name of the token, as those that have it
    are left out. -/
theorem count_passedThrough (params : List (String × String)) :
    ((params.filter (·.1 ≠ viewStateField)).map Prod.fst).count viewStateField = 0 := by
  rw [List.count_eq_zero]
  intro hmem
  obtain ⟨p, hp, heq⟩ := List.mem_map.mp hmem
  simpa [heq] using (List.mem_filter.mp hp).2

section

variable (id : RequestId) (url : Url) (source : String) (event : Option String)
  (options : RequestOptions) (defaultTimeout : Nat) (given : Option String)

/-- The fields that are sent for a caller's `options`: those of the request in their order, and
    behind them the parameters of the caller in theirs, but for those with the name of the token. -/
def fieldsFor : List (String × String) :=
  sent (slots source event (resolveIds (options.execute.getD "@this") source options.form)
    (resolveIds (options.render.getD "@none") source options.form) options.resetValues
    (tokenOf options.params given)) ++ options.params.filter (·.1 ≠ viewStateField)

theorem formFields_build :
    ((build id url source event options defaultTimeout).withViewState given).formFields =
      fieldsFor source event options given := by
  have htoken : (options.params.lookup viewStateField).or given = tokenOf options.params given :=
    congrArg (Option.or · given) (lookup_eq_find? viewStateField options.params)
  rw [formFields_eq, fieldsFor, ← htoken]
  rfl

/-- Among `fieldsFor` the token is there once, or not at all if there is none. -/
theorem count_fieldsFor : ((fieldsFor source event options given).map Prod.fst).count
    viewStateField = if (tokenOf options.params given).isSome then 1 else 0 := by
  rw [fieldsFor, List.map_append, List.count_append, count_sent, count_slots, count_passedThrough,
    Nat.add_zero]

/-- What a server reads from the `body` of a request. -/
structure Transmits (body : String) : Prop where
  /-- The fields that are sent for the options. -/
  fields : readBody body = some (fieldsFor source event options given)
  /-- Among all fields that are read, the token is there once, or not at all if there is none. -/
  token_count : ∀ fields, readBody body = some fields →
    (fields.map Prod.fst).count viewStateField =
      if (tokenOf options.params given).isSome then 1 else 0

/-- **What is read from the body of a request** as it is built for the `options` of a caller,
    whether or not it is given a token afterwards. -/
theorem transmits_build : Transmits source event options given
    ((build id url source event options defaultTimeout).withViewState given).formBody := by
  have hfields := readBody_formBody
    ((build id url source event options defaultTimeout).withViewState given)
  rw [formFields_build] at hfields
  refine ⟨hfields, fun fields hread => ?_⟩
  obtain rfl := Option.some.inj (hread.symm.trans hfields)
  exact count_fieldsFor source event options given

end

end PagePatch.Request
