import Mathlib
import SeriesSql.Http.Exchange
import SeriesSql.Proofs.Encoding.Form
import SeriesSql.Proofs.Url.Text

/-!
# The request that carries a statement

A statement is the only field of the query of its request, whatever characters it has. Of the URL of
the engine the request keeps everything but the query: its path, without the slashes at its end,
comes before the name of the service.
-/

namespace SeriesSql.Http

open Url

/-- The name of the service is a settled segment. -/
theorem isSettled_exec : IsSettled "exec".toList := by
  have hencode : Percent.encode keptInPath "exec".toList = "exec".toList := by decide
  rw [← hencode]
  exact isSettled_encode (by decide) (by decide) (by decide)

/-- The request keeps what the URL of the engine has before its path. The path is the one of that
URL, without the slashes at its end, with the name of the service after it. The text of the request
has one query, which is a form of one field, the statement. -/
theorem execUrl_carries_statement {text : String} {base : Url} (hbase : ofText? text = some base)
    (hscheme : base.scheme = "http" ∨ base.scheme = "https") (sql : String) :
    ∃ slashes query,
      base.path.toList = base.trimmedPath ++ List.replicate slashes '/' ∧
      base.trimmedPath.getLast? ≠ some '/' ∧
      execUrl base sql =
        { base with path := String.ofList base.trimmedPath ++ "/exec", query := some query } ∧
      queryOfText? (execUrl base sql).toText = some query ∧
      Percent.formFields? query = some [("query", sql)] := by
  have hweb : isWeb base.scheme = true := by
    obtain h | h := hscheme <;> rw [h] <;> decide
  have hfile : base.scheme ≠ "file" := by
    obtain h | h := hscheme <;> rw [h] <;> decide
  obtain ⟨authority, parts, hauthority, hplain, hflat, hpath, hparts⟩ :=
    exists_parts_of_ofText hbase hweb hfile
  obtain ⟨⟨slashes, hslashes⟩, hlast⟩ := exists_path_eq_trimmedPath_append base
  have htext : String.ofList (base.trimmedPath ++ "/exec".toList) =
      String.ofList base.trimmedPath ++ "/exec" := by
    rw [String.ofList_append, String.ofList_toList]
  have hwithPath := withPath_trimmedPath hweb hfile hflat hparts hpath isSettled_exec
  obtain ⟨query, hquery, hhash, hfields⟩ := Percent.exists_query_withField
    (base.withPath (base.trimmedPath ++ "/exec".toList)) "query" sql
  have hurl : execUrl base sql =
      { base with path := String.ofList base.trimmedPath ++ "/exec", query := some query } := by
    rw [execUrl, hquery, ← htext]
    exact congrArg (fun url : Url => { url with query := some query }) hwithPath
  have hschemePlain : IsPlain base.scheme := by
    obtain h | h := hscheme <;> rw [h] <;> simp [IsPlain, endsPath]
  have hbeforePlain : IsPlain base.beforePath := by
    rw [beforePath, hauthority]
    exact IsPlain.append (by simp [IsPlain, endsPath]) hplain
  have hpathPlain : IsPlain (String.ofList base.trimmedPath ++ "/exec") := by
    have hbasePath : IsPlain base.path := hpath ▸ isPlain_joined hparts
    refine IsPlain.append (isPlain_ofList.2 fun c hc => ?_) (by simp [IsPlain, endsPath])
    exact hbasePath c (hslashes ▸ List.mem_append_left _ hc)
  refine ⟨slashes, query, hslashes, hlast, hurl, ?_, hfields⟩
  rw [hurl]
  exact queryOfText?_toText hschemePlain hbeforePlain hpathPlain rfl hhash

/-- A URL with credentials, slashes at the end of its path and a query, and a statement full of
signs. -/
theorem execUrl_carries_statement_signs :
    let text := "http://me:pass@[::1]:9000/quest//?stale=1"
    let sql := "SELECT '&=+%#\n'"
    ∃ base query, ofText? text = some base ∧ base.scheme = "http" ∧
      execUrl base sql = { base with path := "/quest/exec", query := some query } ∧
      Percent.formFields? query = some [("query", sql)] := by
  intro text sql
  have hbase : ofText? text = some
      { scheme := "http", authority := some ⟨"me", "pass", "[::1]", some 9000⟩, path := "/quest//",
        flat := false, dotted := false, query := some "stale=1", fragment := none } := by
    decide +kernel
  obtain ⟨slashes, query, -, -, hurl, -, hfields⟩ :=
    execUrl_carries_statement hbase (.inl rfl) sql
  exact ⟨_, query, hbase, rfl, hurl, hfields⟩

end SeriesSql.Http
