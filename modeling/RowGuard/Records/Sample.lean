import RowGuard.Records.Storage
import RowGuard.Session.Source

/-!
# Populated databases

The database that was set up and nothing else, a database with further rows, and a sample of two
organizations whose users share three documents.
-/

namespace RowGuard.Records

/-- The database right after it was set up. -/
def initialDatabase : Database := (setUp (.engine true) { disk := emptyDatabase }).2.disk

/-- The database with further rows, for each of the tables in order. -/
def populated (rows : List (List (List Data))) : Database :=
  (schemas.zip rows).foldl (fun db (s, rows) => db.load s rows) initialDatabase

/-- A document with its number, its organization, its title and whether it is public. -/
def documentRow (id : Int) (org title : String) (isPublic : Bool) : List Data :=
  [.int id, .text org, .text title, .bool isPublic]

/-- A user's role on a document. -/
def grantRow (document : Int) (username role : String) : List Data :=
  [.int document, .text username, .text role]

/-- Two organizations with their users, and what the users may do with documents. -/
def sampleDatabase : Database :=
  populated [
    [[.text "acme"], [.text "globex"]],
    [["bob", "acme", "admin"], ["alice", "acme", "member"], ["carol", "acme", "member"],
      ["dave", "globex", "admin"], ["erin", "globex", "member"]].map (List.map .text),
    [documentRow 1 "acme" "Acme plan" false, documentRow 2 "acme" "Acme handbook" true,
      documentRow 3 "globex" "Globex memo" false],
    [grantRow 1 "bob" "owner", grantRow 3 "dave" "owner", grantRow 3 "alice" "viewer"]]

end RowGuard.Records
