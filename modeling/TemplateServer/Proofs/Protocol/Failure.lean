import TemplateServer.Proofs.Json.OneLine
import TemplateServer.Protocol.Response

namespace TemplateServer.Failure

open Json Token

lemma decode_json (f : Failure) : (Decodable.decode f.json : Decoded Failure) = .ok f := by
  obtain ⟨code, message⟩ := f
  cases code <;> rfl

lemma readable_json (f : Failure) : Readable maxDepth f.json :=
  readable_of_isReadable rfl

lemma sorted_json (f : Failure) : f.json.sorted = f.json := rfl

lemma read?_text_json (f : Failure) : read? f.json.text = some f.json := by
  rw [read?_text f.readable_json, sorted_json]

lemma scanFrom_lineFeed (done : List Token) : scanFrom done ['\n'] = some done.reverse := by
  have hb : isBlank '\n' = true := rfl
  rw [scanFrom, if_pos hb, scanFrom_nil]

def form (f : Failure) : Form :=
  .object [(spell "error", .object [(spell "code", .string (spell f.code.name)),
    (spell "message", .string (spell f.message))])]

lemma formRead?_line (f : Failure) : Form.read? (f.json.text ++ ['\n']) = some f.form := by
  have hclose : membersText [] = ['\x7d'] := rfl
  rw [json, text_obj_cons, text_obj_cons, text_str, membersText_cons, text_str, hclose]
  simp only [List.append_assoc, List.cons_append, List.nil_append]
  rw [Form.read?, scan, scanFrom_cons rfl rfl, scanFrom_quote, scanFrom_cons rfl rfl,
    scanFrom_cons rfl rfl, scanFrom_quote, scanFrom_cons rfl rfl, scanFrom_quote,
    scanFrom_cons rfl rfl, scanFrom_quote, scanFrom_cons rfl rfl, scanFrom_quote,
    scanFrom_cons rfl rfl, scanFrom_cons rfl rfl, scanFrom_lineFeed]
  rfl

lemma value?_form (f : Failure) : f.form.value? maxDepth = some f.json := by
  simp only [form, maxDepth, Form.value?, Form.members?, text?_spell, Option.map_some]
  rfl

lemma select?_form (f : Failure) : f.form.select? (Decodable.shape Failure) = some f.form := by
  simp [form, Decodable.shape, Form.select?, Form.selectMembers?, text?_spell, List.lookup_cons]

lemma read?_line (f : Failure) : read? (f.json.text ++ ['\n']) = some f.json := by
  rw [read?, formRead?_line, Option.bind_some, value?_form]

lemma decodeText?_line (f : Failure) : decodeText? (f.json.text ++ ['\n']) = some f := by
  rw [decodeText?, formRead?_line, Option.bind_some, select?_form, Option.bind_some, value?_form,
    Option.bind_some, decode_json]
  rfl

end TemplateServer.Failure
