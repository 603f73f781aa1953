import NodeGroups.Proofs.Maps
import NodeGroups.Proofs.Text.Forms
import NodeGroups.Remote.Client

namespace NodeGroups

/-- A signature is the keyed digest of a query in lower case, in digits to the base 64. The key is the
secret, hashed if it is longer than a block and filled up to one with zeros; it goes into an inner and an
outer digest. -/
theorem Signature.sign_eq (query secret : String) :
    let key := Utf8.bytes secret
    let block := (if 64 < key.length then Sha1.digest key else key).rightpad 64 0
    sign query secret = String.ofList (Base64.encode (Sha1.digest (block.map (· ^^^ 0x5C) ++
      Sha1.digest (block.map (· ^^^ 0x36) ++ Utf8.bytes (Text.lowercase query))))) := rfl

example : Signature.sign "apikey=ABC&command=listZones" "secret" = "gK/OqFjuJhZmmSrBaHvMY2MVIEQ=" := by
  decide +kernel

/-- The signature that a server makes of a form whose last pair is a signature: of the other pairs, sorted
by their keys and encoded again. -/
def Signature.ofForm (secret form : String) : String :=
  sign (Form.encodeMap (.ofList (Form.decodePairs form).dropLast)) secret

namespace Client

theorem get?_fullQuery (c : Client) (command : String) (q : Query) (key : String) :
    (c.fullQuery command q).get? key =
      if key = "apikey" then some c.apiKey else if key = "response" then some "json"
      else if key = "command" then some command else q.get? key := by
  rw [fullQuery, TextMap.get?_insert, TextMap.get?_insert, TextMap.get?_insert]

theorem toList_fullQuery_ne_nil (c : Client) (command : String) (q : Query) :
    (c.fullQuery command q).toList ≠ [] := by
  have hkey : (c.fullQuery command q).get? "apikey" = some c.apiKey := by
    rw [get?_fullQuery, if_pos rfl]
  exact List.ne_nil_of_mem (TextMap.mem_toList_iff.mpr hkey)

/-- A signed query is the form of its parameters and the signature. -/
theorem signedQuery_eq (c : Client) (command : String) (q : Query) :
    c.signedQuery command q = Form.encodePairs ((c.fullQuery command q).toList ++
      [("signature", Signature.sign (Form.encodeMap (c.fullQuery command q)) c.apiSecret)]) := by
  have hname : Form.encodeComponent "signature".toList = "signature".toList := by decide
  have hmark : "&signature=".toList = '&' :: ("signature".toList ++ ['=']) := by decide
  rw [Form.encodePairs_append_singleton (c.toList_fullQuery_ne_nil command q), Form.encodePair, hname,
    signedQuery, hmark, Form.encodeMap, String.toList_ofList]
  simp only [List.append_assoc, List.cons_append, List.nil_append]

/-- Keys in the order of a map are in the order of their bytes. -/
theorem bytes_ascending (m : TextMap) :
    m.toList.Pairwise fun a b => Utf8.bytes a.1 < Utf8.bytes b.1 := by
  apply m.ascending.imp
  intro a b h
  exact Utf8.bytes_lt h

/-- What is sent behind the question mark of a signed address is a form. It is read back as the parameters,
in the order of their bytes, and the signature, whether or not plus signs are read as spaces. Encoding
the parameters again makes the text that was signed, so a server finds the same signature. -/
theorem signedQuery_reads_back (c : Client) (command : String) (q : Query) :
    let m := c.fullQuery command q
    let query := Form.encodeMap m
    let signature := Signature.sign query c.apiSecret
    let form := String.ofList (c.signedQuery command q)
    let secret := Utf8.bytes c.apiSecret
    let block := (if 64 < secret.length then Sha1.digest secret else secret).rightpad 64 0
    signature = String.ofList (Base64.encode (Sha1.digest (block.map (· ^^^ 0x5C) ++
        Sha1.digest (block.map (· ^^^ 0x36) ++ Utf8.bytes (Text.lowercase query))))) ∧
      (∀ key, m.get? key = if key = "apikey" then some c.apiKey else if key = "response" then some "json"
        else if key = "command" then some command else q.get? key) ∧
      m.toList.Pairwise (fun a b => Utf8.bytes a.1 < Utf8.bytes b.1) ∧
      c.signedUrl command q =
        String.ofList (trimQuestionMarks c.endpoint.url.chars) ++ "?" ++ form ∧
      Form.decodePairs form = m.toList ++ [("signature", signature)] ∧
      '+' ∉ form.toList ∧ Form.pairsBy Form.decodeVerbatim form = Form.decodePairs form ∧
      String.ofList (Form.encodePairs (Form.decodePairs form).dropLast) = query ∧
      Signature.ofForm c.apiSecret form = signature := by
  intro m query signature form secret block
  have hform : form = String.ofList (Form.encodePairs (m.toList ++ [("signature", signature)])) := by
    show String.ofList _ = _
    rw [signedQuery_eq]
  have hread : Form.decodePairs form = m.toList ++ [("signature", signature)] := by
    rw [hform, ← Form.pairsBy_decodeComponent]
    exact Form.pairsBy_encodePairs Form.decodeComponent_encodeComponent _
  have hdrop : (Form.decodePairs form).dropLast = m.toList := by
    rw [hread, List.dropLast_concat]
  have hplus : '+' ∉ form.toList := by
    rw [hform, String.toList_ofList]
    exact Form.not_mem_encodePairs (by decide) (by decide) (by decide) _
  refine ⟨Signature.sign_eq query c.apiSecret, c.get?_fullQuery command q, bytes_ascending m, ?_, hread,
    hplus, ?_, ?_, ?_⟩
  · rw [← String.toList_inj, signedUrl]
    simp [form]
  · rw [hread, hform]
    exact Form.pairsBy_encodePairs Form.decodeVerbatim_encodeComponent _
  · rw [hdrop]
    rfl
  · rw [Signature.ofForm, hdrop, TextMap.ofList_toList]

end Client
end NodeGroups
