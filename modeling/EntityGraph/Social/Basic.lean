import EntityGraph.Entity.Converter
/-!
# Users and posts

The entities of a small social network: users and posts, linked by the
reactions of users to posts. A reaction always points from the user to the
post. A search gives each entity together with the entities linked to it, so
there is a converter for each type that reads these too.
-/

namespace EntityGraph.Social

/-- The type of the relationship to a post that a user likes. -/
def like : String := "LIKE"

/-- The type of the relationship to a post that a user dislikes. -/
def dislike : String := "DISLIKE"

mutual

/-- A user. -/
structure User where
  metadata : Metadata := {}
  name : String := ""
  email : String := ""
  likedPosts : List Post := []
  dislikedPosts : List Post := []

/-- A post. -/
structure Post where
  metadata : Metadata := {}
  title : String := ""
  content : String := ""
  likedBy : List User := []
  dislikedBy : List User := []

end

instance : Inhabited User := ⟨{}⟩

instance : Inhabited Post := ⟨{}⟩

/-- The label of users. -/
def userLabel : String := "User"

/-- The label of posts. -/
def postLabel : String := "Post"

instance : Entity User where
  label := userLabel
  fields :=
    [(Field.scalar "name" .string).markSearchable,
      (Field.scalar "email" .string).markSearchable,
      (((Field.relationship "liked_posts" [like]).target postLabel).targetField
        "title").directed .outgoing,
      (((Field.relationship "disliked_posts" [dislike]).target postLabel).targetField
        "title").directed .outgoing]
  blank := {}
  metadata := User.metadata
  withMetadata user metadata := { user with metadata }
  readField user name :=
    match name with
    | "name" => some (.string user.name)
    | "email" => some (.string user.email)
    | _ => none
  writeField user name value :=
    match name, value with
    | "name", .string s => some { user with name := s }
    | "email", .string s => some { user with email := s }
    | _, _ => none

instance : Entity Post where
  label := postLabel
  fields :=
    [(Field.scalar "title" .string).markSearchable,
      (Field.scalar "content" .string).markSearchable,
      (((Field.relationship "liked_by" [like]).target userLabel).targetField
        "name").directed .incoming,
      (((Field.relationship "disliked_by" [dislike]).target userLabel).targetField
        "name").directed .incoming]
  blank := {}
  metadata := Post.metadata
  withMetadata post metadata := { post with metadata }
  readField post name :=
    match name with
    | "title" => some (.string post.title)
    | "content" => some (.string post.content)
    | _ => none
  writeField post name value :=
    match name, value with
    | "title", .string s => some { post with title := s }
    | "content", .string s => some { post with content := s }
    | _, _ => none

/-- The entities of the nodes in a column, without what is linked to them. -/
def relatedEntities {α : Type} [Entity α] (row : Row) (column : String) : List α :=
  (row.relatedNodes column).map (Converter.standard α).fromNode

/-- The converter of users, which reads the posts linked to them. -/
def User.converter : Converter User :=
  { Converter.standard User with
    fromRow := fun row column =>
      ((Converter.standard User).fromRow row column).map fun user =>
        { user with
          likedPosts := relatedEntities row "liked_posts_collection"
          dislikedPosts := relatedEntities row "disliked_posts_collection" } }

/-- The converter of posts, which reads the users linked to them. -/
def Post.converter : Converter Post :=
  { Converter.standard Post with
    fromRow := fun row column =>
      ((Converter.standard Post).fromRow row column).map fun post =>
        { post with
          likedBy := relatedEntities row "liked_by_collection"
          dislikedBy := relatedEntities row "disliked_by_collection" } }

mutual

/-- The document that shows a user. -/
def User.document : User → Json
  | ⟨metadata, name, email, likedPosts, dislikedPosts⟩ =>
    .obj (metadata.members ++ [("name", .str name), ("email", .str email),
      ("liked_posts", .arr (Post.documents likedPosts)),
      ("disliked_posts", .arr (Post.documents dislikedPosts))])

/-- The documents that show some users. -/
def User.documents : List User → List Json
  | [] => []
  | user :: users => user.document :: User.documents users

/-- The document that shows a post. -/
def Post.document : Post → Json
  | ⟨metadata, title, content, likedBy, dislikedBy⟩ =>
    .obj (metadata.members ++ [("title", .str title), ("content", .str content),
      ("liked_by", .arr (User.documents likedBy)),
      ("disliked_by", .arr (User.documents dislikedBy))])

/-- The documents that show some posts. -/
def Post.documents : List Post → List Json
  | [] => []
  | post :: posts => post.document :: Post.documents posts

end

end EntityGraph.Social
