import ConfigService.Json.Value
/-!
# ApiDocument — the description of the interface

The service describes its interface in a document of its own: the operations on the configuration with their answers, and
the form of everything they take and give.  The document is a fixed value.
-/
namespace ConfigService
namespace ApiDocument

open Json (Value)

/-- A reference to the description of a form. -/
def schemaRef (name : String) : Value := .object [("$ref", .string ("#/components/schemas/" ++ name))]

/-- The description of an error. -/
def errorSchema : Value :=
  .object
    [("oneOf", .array
       [.object
          [("type", .string "object"),
           ("required", .array [.string "InvalidUpdate"]),
           ("properties", .object [("InvalidUpdate", .object [("type", .string "string")])])],
        .object
          [("type", .string "object"),
           ("required", .array [.string "InternalServerError"]),
           ("properties", .object [("InternalServerError", .object [("type", .string "string")])])]])]

/-- The description of a configuration. -/
def configSchema : Value :=
  .object
    [("type", .string "object"),
     ("description", .string "Global configuration of the Explorer, shared by every page and served to\nthe browser client as `INITIAL_CONFIG`."),
     ("required", .array
       [.string "default_project",
        .string "default_dataset",
        .string "default_table",
        .string "analytics_key",
        .string "cache_duration",
        .string "restrict_view_to_admin",
        .string "restrict_save_to_admin",
        .string "restrict_query_to_admin"]),
     ("properties", .object
       [("analytics_key", .object
          [("type", .string "string"),
           ("description", .string "Web analytics tracking key, empty when analytics are disabled.")]),
        ("cache_duration", .object
          [("type", .string "integer"),
           ("format", .string "int64"),
           ("description", .string "Lifetime of cached query results, in seconds."),
           ("example", .number (.ofInt 1800)),
           ("minimum", .number (.ofInt 0))]),
        ("default_dataset", .object [("type", .string "string"), ("example", .string "samples_mart")]),
        ("default_project", .object
          [("type", .string "string"),
           ("description", .string "Project queried when a widget does not name one."),
           ("example", .string "my-perfkit-project")]),
        ("default_table", .object [("type", .string "string"), ("example", .string "results")]),
        ("restrict_query_to_admin", .object [("type", .string "boolean")]),
        ("restrict_save_to_admin", .object [("type", .string "boolean")]),
        ("restrict_view_to_admin", .object [("type", .string "boolean")]),
        ("updated_at", .object
          [("oneOf", .array
             [.object [("type", .string "null")],
              .object
                [("$ref", .string "#/components/schemas/Timestamp"),
                 ("description", .string "Set by the server every time the configuration is updated.")]])])])]

/-- The description of an update. -/
def updateSchema : Value :=
  .object
    [("type", .string "object"),
     ("description", .string "Partial update of an [`ExplorerConfig`]. Absent fields are left untouched."),
     ("properties", .object
       [("analytics_key", .object [("type", .array [.string "string", .string "null"])]),
        ("cache_duration", .object
          [("type", .array [.string "integer", .string "null"]),
           ("format", .string "int64"),
           ("minimum", .number (.ofInt 0))]),
        ("default_dataset", .object [("type", .array [.string "string", .string "null"])]),
        ("default_project", .object [("type", .array [.string "string", .string "null"])]),
        ("default_table", .object [("type", .array [.string "string", .string "null"])]),
        ("restrict_query_to_admin", .object [("type", .array [.string "boolean", .string "null"])]),
        ("restrict_save_to_admin", .object [("type", .array [.string "boolean", .string "null"])]),
        ("restrict_view_to_admin", .object [("type", .array [.string "boolean", .string "null"])])]),
     ("additionalProperties", .bool false)]

/-- The description of a timestamp. -/
def timestampSchema : Value :=
  .object
    [("type", .string "string"),
     ("description", .string "A calendar date and time in UTC, with a precision of one second.\n\nNaive inputs are taken to already be in UTC. Timezone-aware inputs are\nconverted to UTC when the timestamp is built, so the value never carries\nan offset. Fractional seconds are dropped at construction."),
     ("example", .string "2008-09-15T12:30:00Z")]

/-- The operations on the configuration. -/
def configPath : Value :=
  .object
    [("get", .object
       [("tags", .array [.string "handlers::get_config"]),
        ("operationId", .string "get_config"),
        ("responses", .object
          [("200", .object
             [("description", .string "Current global explorer configuration"),
              ("content", .object [("application/json", .object [("schema", schemaRef "ExplorerConfig")])])]),
           ("500", .object
             [("description", .string "Configuration storage unavailable"),
              ("content", .object [("application/json", .object [("schema", schemaRef "ConfigError")])])])])]),
     ("post", .object
       [("tags", .array [.string "handlers::update_config"]),
        ("operationId", .string "update_config"),
        ("requestBody", .object
          [("content", .object [("application/json", .object [("schema", schemaRef "ExplorerConfigUpdate")])]),
           ("required", .bool true)]),
        ("responses", .object
          [("200", .object
             [("description", .string "Configuration updated"),
              ("content", .object [("application/json", .object [("schema", schemaRef "ExplorerConfig")])])]),
           ("400", .object
             [("description", .string "Invalid update"),
              ("content", .object [("application/json", .object [("schema", schemaRef "ConfigError")])])])])])]

/-- The document. -/
def document : Value :=
  .object
    [("openapi", .string "3.1.0"),
     ("info", .object
       [("title", .string "explorer-node"),
        ("description", .string ""),
        ("license", .object [("name", .string "")]),
        ("version", .string "0.1.0")]),
     ("paths", .object [("/config", configPath)]),
     ("components", .object [("schemas", .object
       [("ConfigError", errorSchema), ("ExplorerConfig", configSchema), ("ExplorerConfigUpdate", updateSchema),
        ("Timestamp", timestampSchema)])]),
     ("tags", .array
       [.object
          [("name", .string "explorer-node"),
           ("description", .string "PerfKit Explorer API")]])]

end ApiDocument
end ConfigService
