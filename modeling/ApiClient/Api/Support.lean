import ApiClient.Source.Literal
import ApiClient.Text.Line

/-! The modules that accompany the generated ones and do not depend on the document: the request
builder, through which every method goes, and the configuration of the client that sends the
requests. -/

namespace ApiClient

/-- The request builder after its first line. -/
def requestBuilderLines : List String := [
  "import \x7b AxiosProgressEvent, AxiosResponse, ResponseType \x7d from 'axios';",
  "",
  "type ProgressHandler = (progressEvent: AxiosProgressEvent) => void;",
  "",
  "export class Request \x7b",
  "  abortController?: AbortController;",
  "  request?: Promise<AxiosResponse>;",
  "  private _url: string;",
  "  private _method: string;",
  "  private _params?: object;",
  "  private _headers?: object;",
  "  private _timeout?: number;",
  "  private _data?: object;",
  "  private _onUploadProgress?: ProgressHandler;",
  "  private _onDownloadProgress?: ProgressHandler;",
  "  private _responseType?: ResponseType;",
  "",
  "  constructor(\x7b",
  "    url,",
  "    method = 'get',",
  "    params,",
  "    headers,",
  "    timeout,",
  "    data,",
  "    onUploadProgress,",
  "    onDownloadProgress,",
  "    responseType = 'json',",
  "  \x7d: \x7b",
  "    url: string;",
  "    method?: string;",
  "    params?: object;",
  "    headers?: object;",
  "    timeout?: number;",
  "    data?: object;",
  "    onUploadProgress?: ProgressHandler;",
  "    onDownloadProgress?: ProgressHandler;",
  "    responseType?: ResponseType;",
  "  \x7d) \x7b",
  "    this._url = url;",
  "    this._method = method;",
  "    this._params = params;",
  "    this._headers = headers;",
  "    this._timeout = timeout;",
  "    this._data = data;",
  "    this._onUploadProgress = onUploadProgress;",
  "    this._onDownloadProgress = onDownloadProgress;",
  "    this._responseType = responseType;",
  "  \x7d",
  "",
  "  url(): string;",
  "  url(url: string): Request;",
  "  url(url?: string): Request | string \x7b",
  "    if (url === undefined) \x7b",
  "      return this._url;",
  "    \x7d",
  "    this._url = url;",
  "    return this;",
  "  \x7d",
  "",
  "  data(): object | undefined;",
  "  data(data: object): Request;",
  "  data(data?: object): Request | object | undefined \x7b",
  "    if (data === undefined) \x7b",
  "      return this._data;",
  "    \x7d",
  "    this._data = data;",
  "    return this;",
  "  \x7d",
  "",
  "  timeout(): number | undefined;",
  "  timeout(ms: number): Request;",
  "  timeout(ms?: number): Request | number | undefined \x7b",
  "    if (ms === undefined) \x7b",
  "      return this._timeout;",
  "    \x7d",
  "    this._timeout = ms;",
  "    return this;",
  "  \x7d",
  "",
  "  headers(): object | undefined;",
  "  headers(headers: object): Request;",
  "  headers(headers?: object): Request | object | undefined \x7b",
  "    if (headers === undefined) \x7b",
  "      return this._headers;",
  "    \x7d",
  "    this._headers = headers;",
  "    return this;",
  "  \x7d",
  "",
  "  params(): object | undefined;",
  "  params(params: object): Request;",
  "  params(params?: object): Request | object | undefined \x7b",
  "    if (params === undefined) \x7b",
  "      return this._params;",
  "    \x7d",
  "    this._params = params;",
  "    return this;",
  "  \x7d",
  "",
  "  onDownloadProgress(): ProgressHandler | undefined;",
  "  onDownloadProgress(progress: ProgressHandler): Request;",
  "  onDownloadProgress(progress?: ProgressHandler): Request | ProgressHandler | undefined \x7b",
  "    if (progress === undefined) \x7b",
  "      return this._onDownloadProgress;",
  "    \x7d",
  "    this._onDownloadProgress = progress;",
  "    return this;",
  "  \x7d",
  "",
  "  onUploadProgress(): ProgressHandler | undefined;",
  "  onUploadProgress(progress: ProgressHandler): Request;",
  "  onUploadProgress(progress?: ProgressHandler): Request | ProgressHandler | undefined \x7b",
  "    if (progress === undefined) \x7b",
  "      return this._onUploadProgress;",
  "    \x7d",
  "    this._onUploadProgress = progress;",
  "    return this;",
  "  \x7d",
  "",
  "  responseType(): ResponseType | undefined;",
  "  responseType(responseType: ResponseType): Request;",
  "  responseType(responseType?: ResponseType): Request | ResponseType | undefined \x7b",
  "    if (responseType === undefined) \x7b",
  "      return this._responseType;",
  "    \x7d",
  "    this._responseType = responseType;",
  "    return this;",
  "  \x7d",
  "",
  "  requestAsync(abort = true): Promise<AxiosResponse> \x7b",
  "    // abort the previous request",
  "    if (abort) \x7b",
  "      this.abort();",
  "    \x7d",
  "    this.abortController = new AbortController();",
  "    return (this.request = axios(this._url, \x7b",
  "      method: this._method,",
  "      signal: this.abortController.signal,",
  "      params: this._params,",
  "      headers: this._headers,",
  "      data: this._data,",
  "      timeout: this._timeout,",
  "      onDownloadProgress: this._onDownloadProgress,",
  "      onUploadProgress: this._onUploadProgress,",
  "      responseType: this._responseType,",
  "    \x7d));",
  "  \x7d",
  "",
  "  abort() \x7b",
  "    this.abortController?.abort();",
  "  \x7d",
  "\x7d"]

/-- The request builder, which imports its client from the module of a specifier. -/
def requestModule (configuration : Text) : Text :=
  lines (("import axios from " ++ quoted configuration ++ ";") ::
    requestBuilderLines.map Text.ofString) ++ "\n"

def httpConfigurationLines : List String := [
  "import axios from 'axios';",
  "",
  "const instance = axios.create();",
  "",
  "instance.interceptors.request.use((config) => \x7b",
  "  const contentType = config.headers?.['Content-Type'];",
  "  if (",
  "    contentType === 'multipart/form-data' ||",
  "    contentType === 'application/x-www-form-urlencoded'",
  "  ) \x7b",
  "    const formData = new FormData();",
  "    for (const key in config.data) \x7b",
  "      const value = config.data[key];",
  "      if (value === undefined) \x7b",
  "        continue;",
  "      \x7d",
  "      if (Array.isArray(value)) \x7b",
  "        value.forEach((item, index) => formData.append(" ++
    "\x60$\x7bkey\x7d[$\x7bindex\x7d]\x60, item));",
  "      \x7d else if (value instanceof Blob) \x7b",
  "        formData.append(key, value);",
  "      \x7d else if (typeof value === 'object') \x7b",
  "        formData.append(key, JSON.stringify(value));",
  "      \x7d else \x7b",
  "        formData.append(key, value);",
  "      \x7d",
  "    \x7d",
  "    config.data = formData;",
  "  \x7d",
  "  return config;",
  "\x7d);",
  "",
  "// configure the instance here: baseURL, auth headers, interceptors",
  "",
  "export default instance;"]

/-- A client with a place for settings. It is written once and then left to its owner. -/
def httpConfiguration : Text :=
  lines (httpConfigurationLines.map Text.ofString) ++ "\n"

end ApiClient
